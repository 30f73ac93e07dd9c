import TwitterClone.Notification.CodecRoundTrip

/-! The local buffers of a backup that reads the notification state. Every one of them is
declared with a length from the text, filled, and terminated one byte behind its end. -/
namespace TwitterClone

open Foundation

/-- The size a buffer is declared with, unless that was never assigned, and the indices
that are written. -/
structure LocalBuffer where
  size : Option Int
  written : List Int
  deriving DecidableEq, Repr

namespace LocalBuffer

def InBounds (buffer : LocalBuffer) : Prop :=
  ∃ size, buffer.size = some size ∧ 0 ≤ size ∧ ∀ index ∈ buffer.written, 0 ≤ index ∧ index < size

/-- The buffer that a block is read into. Nothing is said of what is written once the size
itself is wrong. -/
def ofBlock (stream : InputStream) : LocalBuffer :=
  match stream.readInt with
  | (none, _) => { size := none, written := [] }
  | (some length, stream) =>
    if length < 0 then { size := some length, written := [] }
    else
      let (bytes, _) := stream.ignore.read length.toNat
      { size := some length, written := (List.range bytes.length).map Int.ofNat ++ [length] }

/-- The terminator is written behind the end. -/
theorem not_inBounds_ofBlock (stream : InputStream) : ¬ (ofBlock stream).InBounds := by
  rintro ⟨size, declared, nonneg, written⟩
  cases read : stream.readInt with
  | mk announced after =>
    cases announced with
    | none =>
      simp only [ofBlock, read] at declared
      cases declared
    | some length =>
      simp only [ofBlock, read] at declared written
      by_cases negative : length < 0
      · rw [if_pos negative] at declared
        cases declared
        omega
      · simp only [if_neg negative] at declared written
        cases declared
        exact (written _ (List.mem_append_right _ List.mem_cons_self)).2.false

/-- All of them are buffers for blocks. -/
def Blocks (made : List LocalBuffer) : Prop := ∀ buffer ∈ made, ∃ stream, buffer = ofBlock stream

theorem blocks_nil : Blocks [] := by
  intro buffer member
  cases member

theorem blocks_cons (stream : InputStream) {made : List LocalBuffer} (later : Blocks made) :
    Blocks (ofBlock stream :: made) := by
  intro buffer member
  rcases List.mem_cons.mp member with rfl | behind
  · exact ⟨stream, rfl⟩
  · exact later buffer behind

theorem blocks_append {made more : List LocalBuffer} (first : Blocks made) (later : Blocks more) :
    Blocks (made ++ more) := by
  intro buffer member
  rcases List.mem_append.mp member with here | behind
  · exact first buffer here
  · exact later buffer behind

theorem eq_nil_of_inBounds {made : List LocalBuffer} (blocks : Blocks made)
    (inBounds : ∀ buffer ∈ made, buffer.InBounds) : made = [] := by
  apply List.eq_nil_iff_forall_not_mem.mpr
  intro buffer member
  obtain ⟨stream, rfl⟩ := blocks buffer member
  exact not_inBounds_ofBlock stream (inBounds _ member)

end LocalBuffer

open LocalBuffer

namespace Notification

/-- The message is read behind four other values. -/
def buffers (rawData : Text) : List LocalBuffer :=
  let id := (InputStream.of rawData).readInt
  let timestamp := id.2.readUnsigned
  let username := timestamp.2.readWord
  let pendingCount := username.2.readInt
  [ofBlock pendingCount.2]

end Notification

namespace NotificationQueue

def pendingBuffers (stack : Nat) : Nat → InputStream → List LocalBuffer
  | 0, _ => []
  | size + 1, stream => ofBlock stream ::
    match stream.readBlock stack with
    | .error _ => []
    | .ok (_, _, stream) => pendingBuffers stack size stream

def buffers (stack : Nat) (raw : Text) : List LocalBuffer :=
  match (InputStream.of raw).readInt with
  | (none, _) => []
  | (some size, stream) => pendingBuffers stack size.toNat stream

end NotificationQueue

namespace NotificationManager

def notificationBuffers (stack : Nat) : Nat → InputStream → List LocalBuffer
  | 0, _ => []
  | size + 1, stream => ofBlock stream ::
    match stream.readBlock stack with
    | .error _ => []
    | .ok (notificationBuffer, left, stream) =>
      Notification.buffers notificationBuffer ++
        match Notification.deserializeAll left notificationBuffer with
        | .error _ => []
        | .ok _ => notificationBuffers stack size stream.ignore

def listBuffers (stack : Nat) (strNotification : Text) : List LocalBuffer :=
  let (_, stream) := (InputStream.of strNotification).readWord
  match stream.readInt with
  | (none, _) => []
  | (some size, stream) => notificationBuffers stack size.toNat stream

def queueBuffers (stack : Nat) (strQueue : Text) : List LocalBuffer :=
  let (_, stream) := (InputStream.of strQueue).readWord
  ofBlock stream ::
    match stream.readBlock stack with
    | .error _ => []
    | .ok (queueBuffer, left, _) => NotificationQueue.buffers left queueBuffer

/-- The buffers for one line after the other, up to the first that cannot be read. -/
def lineBuffers {Value : Type} (read : Text → Except Fault (Text × Value))
    (buffers : Text → List LocalBuffer) : List Text → List LocalBuffer
  | [] => []
  | line :: rest =>
    if line = [] then lineBuffers read buffers rest
    else
      buffers line ++
        match read line with
        | .error _ => []
        | .ok _ => lineBuffers read buffers rest

/-- All buffers that `deserialize` and the functions it calls declare, in order. -/
def buffers (stack : Nat) (raw : Text) : List LocalBuffer :=
  let (rawId, rest) := splitFirst raw [newline]
  match stoi rawId with
  | .error _ => []
  | .ok _ =>
    let (rawNotifications, rawQueues) := splitFirst rest sectionMark
    lineBuffers (deserializeList stack) (listBuffers stack) (split rawNotifications [newline]) ++
      match readLines (deserializeList stack) ∅ (split rawNotifications [newline]) with
      | .error _ => []
      | .ok _ =>
        lineBuffers (deserializeQueue stack) (queueBuffers stack) (split rawQueues [newline])

/-- A backup that reads the manager's text stays inside its buffers, and takes no size
from a variable that was never assigned. -/
structure StaysInBounds (stack : Nat) (manager : NotificationManager) : Prop where
  inBounds : ∀ buffer ∈ buffers stack manager.serialize, buffer.InBounds
  assigned : deserialize stack manager.serialize ≠ .error .uninitialized

/-- A line with a word and a number that is not positive, so that no notification is read
from it. -/
def StoresNothing (line : Text) : Prop :=
  ∃ size : Int, size ≤ 0 ∧ (InputStream.of line).readWord.2.readInt.1 = some size

/-- No queue is sent, and no notification announced. -/
structure Bare (manager : NotificationManager) : Prop where
  queues : manager.pendingQueues.entries = []
  lists : ∀ entry ∈ manager.notifications.entries, ∀ line ∈ split (serializeList entry) [newline],
    line = [] ∨ StoresNothing line

section Blocks

variable {stack : Nat}

theorem blocks_notification (rawData : Text) : Blocks (Notification.buffers rawData) :=
  blocks_cons _ blocks_nil

theorem blocks_pending (size : Nat) (stream : InputStream) :
    Blocks (NotificationQueue.pendingBuffers stack size stream) := by
  induction size generalizing stream with
  | zero => exact blocks_nil
  | succ size ih =>
    apply blocks_cons
    cases stream.readBlock stack with
    | error fault => exact blocks_nil
    | ok block => exact ih block.2.2

theorem blocks_queue (raw : Text) : Blocks (NotificationQueue.buffers stack raw) := by
  unfold NotificationQueue.buffers
  split
  · exact blocks_nil
  · exact blocks_pending _ _

theorem blocks_notifications (size : Nat) (stream : InputStream) :
    Blocks (notificationBuffers stack size stream) := by
  induction size generalizing stream with
  | zero => exact blocks_nil
  | succ size ih =>
    apply blocks_cons
    cases stream.readBlock stack with
    | error fault => exact blocks_nil
    | ok block =>
      apply blocks_append (blocks_notification block.1)
      cases Notification.deserializeAll block.2.1 block.1 with
      | error fault => exact blocks_nil
      | ok notification => exact ih block.2.2.ignore

theorem blocks_listBuffers (line : Text) : Blocks (listBuffers stack line) := by
  unfold listBuffers
  dsimp only
  split
  · exact blocks_nil
  · exact blocks_notifications _ _

theorem blocks_queueBuffers (line : Text) : Blocks (queueBuffers stack line) := by
  apply blocks_cons
  split
  · exact blocks_nil
  · exact blocks_queue _

theorem blocks_lineBuffers {Value : Type} {read : Text → Except Fault (Text × Value)}
    {made : Text → List LocalBuffer} (each : ∀ line, Blocks (made line)) (lines : List Text) :
    Blocks (lineBuffers read made lines) := by
  induction lines with
  | nil => exact blocks_nil
  | cons line rest ih =>
    unfold lineBuffers
    split
    · exact ih
    · apply blocks_append (each line)
      cases read line with
      | error fault => exact blocks_nil
      | ok entry => exact ih

theorem blocks_buffers (raw : Text) : Blocks (buffers stack raw) := by
  unfold buffers
  dsimp only
  split
  · exact blocks_nil
  · apply blocks_append (blocks_lineBuffers blocks_listBuffers _)
    split
    · exact blocks_nil
    · exact blocks_lineBuffers blocks_queueBuffers _

end Blocks

section Lines

variable {stack : Nat}

theorem deserializeList_of_storesNothing {line : Text} (nothing : StoresNothing line) :
    listBuffers stack line = [] ∧ ∃ key, deserializeList stack line = .ok (key, []) := by
  obtain ⟨size, small, number⟩ := nothing
  have none : size.toNat = 0 := by
    omega
  unfold listBuffers deserializeList
  cases word : (InputStream.of line).readWord with
  | mk key stream =>
    rw [word] at number
    cases read : stream.readInt with
    | mk announced after =>
      rw [read] at number
      cases number
      simp only [none, read, notificationBuffers, readNotifications]
      exact ⟨trivial, _, rfl⟩

/-- Without a buffer and without a count that was never assigned, a line announces
nothing. -/
theorem storesNothing_of_listBuffers {line : Text} (bare : listBuffers stack line = [])
    (assigned : deserializeList stack line ≠ .error .uninitialized) : StoresNothing line := by
  unfold listBuffers at bare
  unfold deserializeList at assigned
  unfold StoresNothing
  cases word : (InputStream.of line).readWord with
  | mk key stream =>
    rw [word] at bare assigned
    cases read : stream.readInt with
    | mk announced after =>
      cases announced with
      | none => simp [read] at assigned
      | some size =>
        refine ⟨size, ?_, rfl⟩
        by_contra positive
        have some : size.toNat = size.toNat - 1 + 1 := by
          omega
        simp only [read] at bare
        rw [some] at bare
        cases bare

variable {Value : Type} {read : Text → Except Fault (Text × Value)}
  {made : Text → List LocalBuffer}

/-- Lines that are empty, or are read without a buffer, are all read. -/
theorem readLines_of_bare {lines : List Text}
    (bare : ∀ line ∈ lines, line = [] ∨ made line = [] ∧ ∃ entry, read line = .ok entry)
    (map : UnorderedMap Text Value) :
    lineBuffers read made lines = [] ∧ ∃ final, readLines read map lines = .ok final := by
  induction lines generalizing map with
  | nil => exact ⟨rfl, map, rfl⟩
  | cons line rest ih =>
    have later := ih fun other member => bare other (List.mem_cons_of_mem line member)
    by_cases empty : line = []
    · rw [lineBuffers, readLines, if_pos empty, if_pos empty]
      exact later map
    · obtain ⟨none, ⟨key, value⟩, entry⟩ :=
        (bare line List.mem_cons_self).resolve_left empty
      rw [lineBuffers, readLines, if_neg empty, if_neg empty, none, entry]
      exact later (map.emplace key value)

theorem readLines_of_storesNothing {lines : List Text}
    (bare : ∀ line ∈ lines, line = [] ∨ StoresNothing line) :
    lineBuffers (deserializeList stack) (listBuffers stack) lines = [] ∧
      ∃ final, readLines (deserializeList stack) ∅ lines = .ok final := by
  refine readLines_of_bare ?_ ∅
  intro line member
  refine (bare line member).imp id ?_
  intro nothing
  obtain ⟨none, key, entry⟩ := deserializeList_of_storesNothing nothing
  exact ⟨none, _, entry⟩

/-- Conversely, where no line makes a buffer and every line that makes none is read
unless it lacks a value. -/
theorem bare_of_lineBuffers
    (quiet : ∀ line, made line = [] → read line ≠ .error .uninitialized →
      ∃ entry, read line = .ok entry) {lines : List Text} {map : UnorderedMap Text Value}
    (none : lineBuffers read made lines = [])
    (assigned : readLines read map lines ≠ .error .uninitialized) :
    ∀ line ∈ lines, line = [] ∨ made line = [] ∧ read line ≠ .error .uninitialized := by
  induction lines generalizing map with
  | nil =>
    intro line member
    cases member
  | cons line rest ih =>
    intro other member
    by_cases empty : line = []
    · rw [lineBuffers, if_pos empty] at none
      rw [readLines, if_pos empty] at assigned
      rcases List.mem_cons.mp member with rfl | later
      · exact .inl empty
      · exact ih none assigned other later
    · rw [lineBuffers, if_neg empty] at none
      rw [readLines, if_neg empty] at assigned
      obtain ⟨here, behind⟩ := List.append_eq_nil_iff.mp none
      have known : read line ≠ .error .uninitialized := by
        intro fault
        rw [fault] at assigned
        exact assigned rfl
      obtain ⟨⟨key, value⟩, entry⟩ := quiet line here known
      rw [entry] at behind assigned
      rcases List.mem_cons.mp member with rfl | later
      · exact .inr ⟨here, known⟩
      · exact ih behind assigned other later

theorem empty_of_lineBuffers (loud : ∀ line, made line ≠ []) {lines : List Text}
    (none : lineBuffers read made lines = []) : ∀ line ∈ lines, line = [] := by
  induction lines with
  | nil =>
    intro line member
    cases member
  | cons line rest ih =>
    by_cases empty : line = []
    · rw [lineBuffers, if_pos empty] at none
      intro other member
      rcases List.mem_cons.mp member with rfl | later
      · exact empty
      · exact ih none other later
    · rw [lineBuffers, if_neg empty] at none
      exact absurd (List.append_eq_nil_iff.mp none).1 (loud line)

end Lines

section Sections

/-- A text in front of the mark is cut there, or it has a line with nothing but the
ampersand of the mark and the rest has the other one. -/
theorem cut_at_mark {front rest first second : Text}
    (same : first ++ (sectionMark ++ second) = front ++ (sectionMark ++ rest))
    (early : first.length ≤ front.length) :
    first = front ∧ second = rest ∨
      ['&'] ∈ split front [newline] ∧ '&' ∈ second := by
  rcases List.append_eq_append_iff.mp same with ⟨between, rfl, behind⟩ | ⟨between, rfl, behind⟩
  · match between with
    | [] =>
      refine .inl ⟨by simp, ?_⟩
      simpa [sectionMark] using behind
    | [_] =>
      have ampersand := (List.cons.inj (List.cons.inj behind).2).1
      exact absurd ampersand (by decide)
    | [_, _] =>
      simp only [sectionMark, List.cons_append, List.nil_append, List.cons.injEq] at behind
      obtain ⟨rfl, rfl, -, rfl⟩ := behind
      refine .inr ⟨?_, List.mem_cons_self⟩
      rw [split_append_split]
      exact List.mem_append_right _ (by decide)
    | _ :: _ :: _ :: more =>
      simp only [sectionMark, List.cons_append, List.nil_append, List.cons.injEq] at behind
      obtain ⟨rfl, rfl, rfl, rfl⟩ := behind
      refine .inr ⟨?_, by simp⟩
      have line := @split_append newline ['&'] more (by decide)
      rw [split_append_split]
      apply List.mem_append_right
      rw [show '&' :: newline :: more = ['&'] ++ newline :: more from rfl, line]
      exact List.mem_cons_self
  · have none : between = [] := by
      rw [List.length_append] at early
      exact List.length_eq_zero_iff.mp (by omega)
    subst none
    refine .inl ⟨by simp, ?_⟩
    simpa [sectionMark] using behind.symm

/-- The lines for the notifications and for the queues. -/
def listText (manager : NotificationManager) : Text :=
  manager.notifications.entries.flatMap fun entry => serializeList entry ++ [newline]

def queueText (manager : NotificationManager) : Text :=
  manager.pendingQueues.entries.flatMap fun entry => serializeQueue entry ++ [newline]

variable {manager : NotificationManager}

theorem splitFirst_serialize :
    splitFirst manager.serialize [newline] =
      (showNat manager.nextId, manager.listText ++ (sectionMark ++ manager.queueText)) :=
  splitFirst_append _ (notMem_showNat rfl _)

theorem split_listText :
    split manager.listText [newline] =
      manager.notifications.entries.flatMap (fun entry => split (serializeList entry) [newline]) ++
        [[]] := by
  unfold listText
  induction manager.notifications.entries with
  | nil => rfl
  | cons entry rest ih =>
    rw [List.flatMap_cons, List.flatMap_cons, List.append_assoc, List.append_assoc,
      List.singleton_append, split_append_split, ih]

theorem bare_lists_iff :
    (∀ entry ∈ manager.notifications.entries, ∀ line ∈ split (serializeList entry) [newline],
        line = [] ∨ StoresNothing line) ↔
      ∀ line ∈ split manager.listText [newline], line = [] ∨ StoresNothing line := by
  rw [split_listText]
  simp only [List.mem_append, List.mem_flatMap, List.mem_singleton]
  constructor
  · rintro each line (⟨entry, member, inside⟩ | rfl)
    · exact each entry member line inside
    · exact .inl rfl
  · intro each entry member line inside
    exact each line (.inl ⟨entry, member, inside⟩)

/-- Where the text is cut between the two sections. -/
theorem splitFirst_sections (manager : NotificationManager) :
    ∃ lists queues,
      splitFirst (manager.listText ++ (sectionMark ++ manager.queueText)) sectionMark =
        (lists, queues) ∧
      (lists = manager.listText ∧ queues = manager.queueText ∨
        ['&'] ∈ split manager.listText [newline] ∧ '&' ∈ queues) := by
  obtain ⟨text, whole⟩ : ∃ text, text = manager.listText ++ (sectionMark ++ manager.queueText) :=
    ⟨_, rfl⟩
  have starts : sectionMark <+: text.drop manager.listText.length := by
    rw [whole, List.drop_left]
    exact List.prefix_append _ _
  obtain ⟨position, found, early⟩ := exists_find_le starts
  have parts := take_append_drop_of_find found
  have bound : (text.take position).length ≤ manager.listText.length :=
    (List.length_take_le _ _).trans early
  refine ⟨text.take position, text.drop (position + sectionMark.length), ?_, ?_⟩
  · rw [← whole, splitFirst, found]
  · exact cut_at_mark (parts.trans whole) bound

end Sections

section Exact

variable {stack : Nat} {manager : NotificationManager}

/-- A text whose lines are all empty. -/
theorem only_newlines {text : Text} (empty : ∀ line ∈ split text [newline], line = []) :
    ∀ byte ∈ text, byte = newline := by
  intro byte member
  by_contra other
  have free := @notMem_joinStrings byte [newline] (split text [newline]) (by simpa using other)
    fun line inside => by
      rw [empty line inside]
      exact List.not_mem_nil
  rw [joinStrings_split] at free
  exact free member

theorem not_storesNothing_ampersand : ¬ StoresNothing ['&'] := by
  rintro ⟨size, -, number⟩
  have none : (InputStream.of ['&']).readWord.2.readInt.1 = none := by
    decide +kernel
  rw [none] at number
  cases number

/-- A number that is no `int` is refused before anything is declared. -/
theorem staysInBounds_of_large (large : 2 ^ 31 ≤ manager.nextId) : StaysInBounds stack manager := by
  have refused : stoi (showNat manager.nextId) = .error .outOfRange := by
    rw [stoi_showNat, if_neg (by omega)]
  constructor
  · intro buffer member
    simp only [buffers, splitFirst_serialize, refused] at member
    cases member
  · simp only [deserialize, splitFirst_serialize, refused]
    exact fun same => Fault.noConfusion (Except.error.inj same)

theorem staysInBounds_of_bare (small : manager.nextId < 2 ^ 31) (bare : manager.Bare) :
    StaysInBounds stack manager := by
  have lists := bare_lists_iff.mp bare.lists
  obtain ⟨rawNotifications, rawQueues, cut, parts⟩ := splitFirst_sections manager
  have whole : rawNotifications = manager.listText ∧ rawQueues = [] := by
    rcases parts with ⟨rfl, rfl⟩ | ⟨ampersand, -⟩
    · exact ⟨rfl, by rw [queueText, bare.queues]; rfl⟩
    · rcases lists _ ampersand with empty | nothing
      · cases empty
      · exact absurd nothing not_storesNothing_ampersand
  obtain ⟨rfl, rfl⟩ := whole
  have number : stoi (showNat manager.nextId) = .ok (manager.nextId : Int) := by
    rw [stoi_showNat, if_pos small]
  obtain ⟨none, notifications, read⟩ := @readLines_of_storesNothing stack _ lists
  constructor
  · intro buffer member
    simp only [buffers, splitFirst_serialize, number, cut, none, read] at member
    cases member
  · have queues : readLines (deserializeQueue stack) ∅ (split [] [newline]) = .ok ∅ := rfl
    simp only [deserialize, splitFirst_serialize, number, cut, read, queues]
    intro same
    cases same

theorem bare_of_staysInBounds (small : manager.nextId < 2 ^ 31)
    (stays : StaysInBounds stack manager) : manager.Bare := by
  have made := eq_nil_of_inBounds (blocks_buffers manager.serialize) stays.inBounds
  have assigned := stays.assigned
  have number : stoi (showNat manager.nextId) = .ok (manager.nextId : Int) := by
    rw [stoi_showNat, if_pos small]
  obtain ⟨rawNotifications, rawQueues, cut, parts⟩ := splitFirst_sections manager
  simp only [buffers, splitFirst_serialize, number, cut] at made
  simp only [deserialize, splitFirst_serialize, number, cut] at assigned
  obtain ⟨noList, noQueue⟩ := List.append_eq_nil_iff.mp made
  have known : readLines (deserializeList stack) ∅ (split rawNotifications [newline]) ≠
      .error .uninitialized := by
    intro fault
    rw [fault] at assigned
    exact assigned rfl
  have lists : ∀ line ∈ split rawNotifications [newline], line = [] ∨ StoresNothing line := by
    intro line member
    refine (bare_of_lineBuffers ?_ noList known line member).imp id ?_
    · intro other bare fine
      obtain ⟨key, entry⟩ :=
        (deserializeList_of_storesNothing (storesNothing_of_listBuffers bare fine)).2
      exact ⟨_, entry⟩
    · rintro ⟨bare, fine⟩
      exact storesNothing_of_listBuffers bare fine
  obtain ⟨-, notifications, read⟩ := readLines_of_storesNothing lists
  rw [read] at noQueue
  have newlines := only_newlines (empty_of_lineBuffers (fun line => List.cons_ne_nil _ _) noQueue)
  rcases parts with ⟨rfl, rfl⟩ | ⟨-, ampersand⟩
  · refine ⟨?_, bare_lists_iff.mpr lists⟩
    cases shape : manager.pendingQueues.entries with
    | nil => rfl
    | cons entry rest =>
      have blank : ' ' ∈ manager.queueText := by
        simp [queueText, shape, serializeQueue]
      exact absurd (newlines _ blank) (by decide)
  · exact absurd (newlines _ ampersand) (by decide)

theorem storesNothing_iff_of_word {name rest : Text} (word : IsWord name) {count : Nat}
    (few : count < 2 ^ 31) :
    StoresNothing (name ++ ' ' :: (showNat count ++ ' ' :: rest)) ↔ count = 0 := by
  have key := InputStream.readWord_text (InputStream.enter_of word.2 word.1
    (' ' :: (showNat count ++ ' ' :: rest))) word.2
  have number := InputStream.readInt_showNat (InputStream.enter_blank (ink_showNat count)
    (showNat_ne_nil count) (' ' :: rest)) few (by simp)
  unfold StoresNothing
  rw [key, number]
  constructor
  · rintro ⟨size, small, same⟩
    cases same
    omega
  · rintro rfl
    exact ⟨0, le_rfl, rfl⟩

/-- The first line begins with what has no end of a line. -/
theorem split_front_append {front : Text} (free : newline ∉ front) (text : Text) :
    ∃ line behind, split (front ++ text) [newline] = (front ++ line) :: behind := by
  by_cases inside : newline ∈ text
  · obtain ⟨line, rest, rfl, lineFree⟩ := List.eq_append_cons_of_mem inside
    refine ⟨line, split rest [newline], ?_⟩
    rw [← List.append_assoc, split_append _ (List.not_mem_append free lineFree)]
  · exact ⟨text, [], split_of_free (List.not_mem_append free inside)⟩

/-- With names of one word, nothing is announced exactly if nothing is stored. -/
theorem bare_iff_of_words (words : ∀ entry ∈ manager.notifications.entries,
      IsWord entry.1 ∧ entry.2.length < 2 ^ 31) :
    manager.Bare ↔ manager.pendingQueues.entries = [] ∧
      ∀ entry ∈ manager.notifications.entries, entry.2 = [] := by
  have oneLine : ∀ {name : Text}, IsWord name → ∀ count, newline ∉ name ++ ' ' ::
      (showNat count ++ [' ']) := by
    intro name word count
    simp only [List.mem_append, List.mem_cons, List.not_mem_nil, or_false, not_or]
    refine ⟨?_, by decide, notMem_showNat rfl count, by decide⟩
    intro inside
    exact absurd (word.2 newline inside) (by decide)
  constructor
  · intro bare
    refine ⟨bare.queues, ?_⟩
    intro entry member
    obtain ⟨word, few⟩ := words entry member
    obtain ⟨line, behind, first⟩ := split_front_append (oneLine word entry.2.length)
      (serializeEach true entry.2)
    have whole : serializeList entry = (entry.1 ++ ' ' :: (showNat entry.2.length ++ [' '])) ++
        serializeEach true entry.2 := by
      simp [serializeList]
    have nothing := bare.lists entry member _ (whole ▸ first ▸ List.mem_cons_self)
    have stored : StoresNothing
        (entry.1 ++ ' ' :: (showNat entry.2.length ++ ' ' :: line)) := by
      simpa using nothing.resolve_left (by simp)
    exact List.length_eq_zero_iff.mp ((storesNothing_iff_of_word word few).mp stored)
  · rintro ⟨queues, lists⟩
    refine ⟨queues, ?_⟩
    intro entry member line inside
    obtain ⟨word, few⟩ := words entry member
    have single : serializeList entry = entry.1 ++ ' ' :: (showNat 0 ++ [' ']) := by
      rw [serializeList, lists entry member]
      rfl
    rw [single, split_of_free (oneLine word 0)] at inside
    rw [List.mem_singleton.mp inside]
    exact .inr ((storesNothing_iff_of_word word (by decide)).mpr rfl)

end Exact

/-- A backup stays inside its buffers exactly if it reads none: the id is refused first, or
there is no queue and no notification. -/
theorem staysInBounds_iff (stack : Nat) (manager : NotificationManager) :
    StaysInBounds stack manager ↔ 2 ^ 31 ≤ manager.nextId ∨ manager.Bare := by
  constructor
  · intro stays
    by_cases large : 2 ^ 31 ≤ manager.nextId
    · exact .inl large
    · exact .inr (bare_of_staysInBounds (by omega) stays)
  · rintro (large | bare)
    · exact staysInBounds_of_large large
    · by_cases large : 2 ^ 31 ≤ manager.nextId
      · exact staysInBounds_of_large large
      · exact staysInBounds_of_bare (by omega) bare

/-- A server with one user and nothing to tell. -/
def oneUser : NotificationManager := (loadUsers {} [['a']]).manager

theorem not_staysInBounds_oneUser : ¬ StaysInBounds 8388608 oneUser := by
  intro stays
  obtain ⟨size, declared, -, written⟩ := stays.inBounds ⟨some 1, [0, 1]⟩ (by decide +kernel)
  cases declared
  exact absurd (written 1 (by decide)).2 (by decide)

end NotificationManager

end TwitterClone

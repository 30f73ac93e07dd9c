import TwitterClone.Notification.CodecRoundTrip

/-! What the text of one notification can do to the rest of the replicated state. The
reader cuts at line ends before it looks at any length, so a line end in a text takes
the whole update away. -/
namespace TwitterClone

open Foundation InputStream

namespace Notification

/-- All but the text is as it is read back. -/
structure Named (notification : Notification) : Prop where
  id : IsInt notification.id
  timestamp : notification.timestamp < 2 ^ 64
  username : IsWord notification.username
  terminated : nul ∉ notification.username
  pendingCount : IsInt notification.pendingCount
  message : nul ∉ notification.message

/-- The text is one line, and it leaves the length of the encoding an `int` and the stack
room for the encoding and the text at once. -/
structure OneLine (stack : Nat) (notification : Notification) : Prop where
  line : newline ∉ notification.message
  size : notification.serializeAll.length < 2 ^ 31
  room : notification.serializeAll.length + notification.message.length ≤ stack

variable {stack : Nat} {notification : Notification}

theorem Named.readable (named : notification.Named) (line : newline ∉ notification.message) :
    notification.Readable :=
  ⟨named.id, named.timestamp, named.username, named.pendingCount, named.message, line⟩

theorem OneLine.fits (oneLine : notification.OneLine stack) (named : notification.Named) :
    notification.Fits stack := ⟨named.terminated, oneLine.size, oneLine.room⟩

theorem newline_mem_serializeAll (named : notification.Named)
    (broken : newline ∈ notification.message) : newline ∈ notification.serializeAll := by
  simp [serializeAll, cString_of_free named.message, broken]

end Notification

namespace NotificationManager

/-- All but the texts is as it is read back. -/
structure Named (stack : Nat) (manager : NotificationManager) : Prop where
  nextId : manager.nextId < 2 ^ 31
  senders : ∀ entry ∈ manager.notifications.entries, IsWord entry.1 ∧ entry.2.length < 2 ^ 31 ∧
    ∀ notification ∈ entry.2, notification.Named
  users : ∀ entry ∈ manager.pendingQueues.entries,
    IsWord entry.1 ∧ entry.2.Readable ∧ entry.2.Fits stack

def OneLine (stack : Nat) (manager : NotificationManager) : Prop :=
  ∀ entry ∈ manager.notifications.entries, ∀ notification ∈ entry.2, notification.OneLine stack

/-- The state with another text in one notification. -/
def setMessage (manager : NotificationManager) (sender : Text) (index : Nat) (message : Text) :
    NotificationManager :=
  manager.changeStored sender fun list =>
    list.modify index fun notification => { notification with message }

/-- What is left of a text up to its first line end. -/
def firstLine (text : Text) : Text := text.takeWhile (· ≠ newline)

section Lines

theorem firstLine_append {first : Text} (rest : Text) (free : newline ∉ first) :
    firstLine (first ++ rest) = first ++ firstLine rest := by
  have kept : ∀ byte ∈ first, decide (byte ≠ newline) = true := by
    intro byte member
    exact decide_eq_true fun same : byte = newline => free (same ▸ member)
  exact List.takeWhile_append_of_pos kept

theorem firstLine_cons {byte : Char} (rest : Text) (differs : byte ≠ newline) :
    firstLine (byte :: rest) = byte :: firstLine rest := by
  simp [firstLine, differs]

/-- A broken text is cut at its first line end, whatever follows it. -/
theorem firstLine_of_broken {text : Text} (broken : newline ∈ text) :
    ∃ before after, text = before ++ newline :: after ∧ newline ∉ before ∧
      ∀ rest, firstLine (text ++ rest) = before := by
  obtain ⟨before, after, rfl, free⟩ := List.eq_append_cons_of_mem broken
  refine ⟨before, after, rfl, free, ?_⟩
  intro rest
  rw [List.append_assoc, List.cons_append, firstLine_append _ free]
  simp [firstLine]

theorem firstLine_of_free {text : Text} (free : newline ∉ text) : firstLine text = text := by
  simpa [firstLine] using firstLine_append [] free

end Lines

section Failing

variable {stack : Nat}

theorem newline_notMem_block {notification : Notification} (readable : notification.Readable) :
    newline ∉ block notification.serializeAll := by
  have blank : newline ≠ ' ' := by decide
  simp only [block, List.mem_append, List.mem_cons, not_or]
  exact ⟨notMem_showNat rfl _, blank, newline_notMem_serializeAll readable⟩

/-- A notification that is not one line leaves its buffer unfilled, or has no room. -/
theorem readNotifications_of_not_oneLine {notification : Notification}
    (named : notification.Named) (broken : ¬ notification.OneLine stack) (size : Nat) (rest : Text)
    {stream : InputStream}
    (entered : stream.enter =
      some (firstLine (block notification.serializeAll ++ rest))) :
    ∃ fault, readNotifications stack (size + 1) stream = .error fault := by
  by_cases line : newline ∈ notification.message
  · have blank : ' ' ≠ newline := by decide
    obtain ⟨before, after, text, -, cut⟩ :=
      firstLine_of_broken (Notification.newline_mem_serializeAll named line)
    rw [block, List.append_assoc, firstLine_append _ (notMem_showNat rfl _), List.cons_append,
      firstLine_cons _ blank] at entered
    have lacking : (firstLine (notification.serializeAll ++ rest)).length <
        notification.serializeAll.length := by
      rw [cut rest, text]
      simp
    obtain ⟨fault, failed⟩ := @readBlock_lacking stack _ _ _ entered (Or.inl lacking)
    exact ⟨fault, by simp only [readNotifications, failed]⟩
  · have readable := named.readable line
    rw [firstLine_append _ (newline_notMem_block readable)] at entered
    exact readNotifications_of_not_fits readable named.terminated
      (fun fits => broken ⟨line, fits.size, fits.room⟩) size stream _ entered

/-- The blocks of one line, with or without a comma in front, up to a line end. -/
theorem readNotifications_fails (notifications : List Notification)
    (named : ∀ notification ∈ notifications, notification.Named)
    (broken : ∃ notification ∈ notifications, ¬ notification.OneLine stack)
    {stream : InputStream}
    (entered : stream = of (' ' :: firstLine (serializeEach true notifications)) ∨
      stream = (of (firstLine (serializeEach false notifications))).ignore) :
    ∃ fault, readNotifications stack notifications.length stream = .error fault := by
  induction notifications generalizing stream with
  | nil =>
    obtain ⟨notification, member, -⟩ := broken
    cases member
  | cons notification rest ih =>
    have valid := named notification List.mem_cons_self
    have begins : stream.enter = some (firstLine
        (block notification.serializeAll ++ serializeEach false rest)) := by
      have digits : firstLine (block notification.serializeAll ++ serializeEach false rest) =
          showNat notification.serializeAll.length ++
            firstLine (' ' :: (notification.serializeAll ++ serializeEach false rest)) := by
        rw [block, List.append_assoc, firstLine_append _ (notMem_showNat rfl _), List.cons_append]
      rw [digits]
      rcases entered with rfl | rfl
      · have shape : serializeEach true (notification :: rest) =
            block notification.serializeAll ++ serializeEach false rest := by
          simp only [serializeEach, ↓reduceIte, List.nil_append]
        rw [shape, digits]
        exact enter_blank (ink_showNat _) (showNat_ne_nil _) _
      · have comma : (of (firstLine (serializeEach false (notification :: rest)))).ignore =
            of (firstLine (block notification.serializeAll ++ serializeEach false rest)) := by
          simp only [serializeEach, Bool.false_eq_true, ↓reduceIte, List.singleton_append]
          rw [firstLine_cons _ (by decide)]
          exact ignore_cons ',' _
        rw [comma, digits]
        exact enter_of (ink_showNat _) (showNat_ne_nil _) _
    by_cases oneLine : notification.OneLine stack
    · have readable := valid.readable oneLine.line
      have fits := oneLine.fits valid
      rw [firstLine_append _ (newline_notMem_block readable)] at begins
      have block := readBlock_block begins oneLine.size fits.whole
        (nul_notMem_serializeAll readable valid.terminated)
      have decoded := fits.decoded readable
      obtain ⟨other, member, otherBroken⟩ := broken
      have later : other ∈ rest :=
        (List.mem_cons.mp member).resolve_left fun same => otherBroken (same ▸ oneLine)
      obtain ⟨fault, failed⟩ := ih (fun other member => named other (List.mem_cons_of_mem _ member))
        ⟨other, later, otherBroken⟩ (Or.inr rfl)
      exact ⟨fault, by simp only [List.length_cons, readNotifications, block, decoded, failed]⟩
    · exact readNotifications_of_not_oneLine valid oneLine rest.length _ begins

theorem firstLine_serializeList {entry : Text × List Notification} (word : IsWord entry.1) :
    firstLine (serializeList entry) = entry.1 ++ ' ' :: (showNat entry.2.length ++
      ' ' :: firstLine (serializeEach true entry.2)) := by
  have blank : ' ' ≠ newline := by decide
  rw [serializeList, firstLine_append _ (newline_notMem_word word), firstLine_cons _ blank,
    firstLine_append _ (notMem_showNat rfl _), firstLine_cons _ blank]

/-- A line whose texts are not all one line is not read, as far as it gets. -/
theorem deserializeList_fails {entry : Text × List Notification} (word : IsWord entry.1)
    (few : entry.2.length < 2 ^ 31) (named : ∀ notification ∈ entry.2, notification.Named)
    (broken : ∃ notification ∈ entry.2, ¬ notification.OneLine stack) :
    ∃ fault, deserializeList stack (firstLine (serializeList entry)) = .error fault := by
  have key := readWord_text (enter_of word.2 word.1
    (' ' :: (showNat entry.2.length ++ ' ' :: firstLine (serializeEach true entry.2)))) word.2
  have size := readInt_showNat (enter_blank (ink_showNat entry.2.length) (showNat_ne_nil _)
    (' ' :: firstLine (serializeEach true entry.2))) few (by simp)
  obtain ⟨fault, failed⟩ := readNotifications_fails entry.2 named broken (Or.inl rfl)
  refine ⟨fault, ?_⟩
  rw [firstLine_serializeList word]
  unfold deserializeList
  rw [key]
  dsimp only
  rw [size]
  dsimp only
  rw [after_cons, Int.toNat_natCast, failed]

/-- One line that is not read stops the loop over lines. -/
theorem readLines_fails {Value : Type} {read : Text → Except Fault (Text × Value)} {line : Text}
    {lines : List Text} (member : line ∈ lines) (nonempty : line ≠ [])
    (failed : ∃ fault, read line = .error fault) (map : UnorderedMap Text Value) :
    ∃ fault, readLines read map lines = .error fault := by
  induction lines generalizing map with
  | nil => cases member
  | cons head rest ih =>
    rw [readLines]
    rcases List.mem_cons.mp member with rfl | later
    · obtain ⟨fault, failed⟩ := failed
      exact ⟨fault, by rw [if_neg nonempty, failed]⟩
    · split
      next => exact ih later map
      next =>
        split
        next fault first => exact ⟨fault, rfl⟩
        next key value first => exact ih later _

/-- Wherever the section mark is found, the lines in front of it are cut at the first
line end of a broken one. -/
theorem split_front (lines : List Text) {before : Text} (after : Text)
    (free : ∀ line ∈ lines, newline ∉ line) (blank : ∀ line ∈ lines, ' ' ∈ line)
    (beforeFree : newline ∉ before) (beforeBlank : ' ' ∈ before) :
    before ∈ split (splitFirst
      (lines.flatMap (· ++ [newline]) ++ (before ++ newline :: after)) sectionMark).1 [newline] := by
  obtain ⟨tail, taken, shape⟩ : ∃ tail, (splitFirst
      (lines.flatMap (· ++ [newline]) ++ (before ++ newline :: after)) sectionMark).1 =
        lines.flatMap (· ++ [newline]) ++ (before ++ tail) ∧
      (tail = [] ∨ ∃ more, tail = newline :: more) := by
    have found := find_sectionMark lines free blank
      (@not_mark_line before after beforeFree beforeBlank)
    have inner : find sectionMark (before ++ newline :: after) =
        (find sectionMark (newline :: after)).map (· + before.length) :=
      find_append _ beforeFree
    rw [inner, Option.map_map] at found
    rw [splitFirst, found]
    cases find sectionMark (newline :: after) with
    | none => exact ⟨newline :: after, rfl, Or.inr ⟨after, rfl⟩⟩
    | some position =>
      refine ⟨(newline :: after).take position, ?_, ?_⟩
      · have sum : position + before.length + (lines.flatMap (· ++ [newline])).length =
            (lines.flatMap (· ++ [newline])).length + (before.length + position) := by
          omega
        simp only [Option.map_some, Function.comp_apply]
        rw [sum, List.take_length_add_append, List.take_length_add_append]
      · cases position with
        | zero => exact Or.inl rfl
        | succ position => exact Or.inr ⟨after.take position, rfl⟩
  rw [taken]
  clear taken
  induction lines with
  | nil =>
    rcases shape with rfl | ⟨more, rfl⟩
    · simp [split_of_free beforeFree]
    · simp [split_append _ beforeFree]
  | cons line more ih =>
    have later := ih (fun other member => free other (List.mem_cons_of_mem line member))
      (fun other member => blank other (List.mem_cons_of_mem line member))
    rw [List.flatMap_cons, List.append_assoc, List.append_assoc, List.singleton_append,
      split_append _ (free line List.mem_cons_self)]
    exact List.mem_cons_of_mem line later

variable {manager : NotificationManager}

/-- A text that is not one line stops the reader, wherever it is stored. -/
theorem deserialize_fails (named : manager.Named stack) (broken : ¬ manager.OneLine stack) :
    ∃ fault, deserialize stack manager.serialize = .error fault := by
  by_cases whole : ∀ entry ∈ manager.notifications.entries, newline ∉ serializeList entry
  · -- A text too long for its buffers, in a state that has no line end in a text.
    have lists : ∀ line ∈ manager.notifications.entries.map serializeList,
        newline ∉ line ∧ ' ' ∈ line := by
      intro line member
      obtain ⟨entry, inside, rfl⟩ := List.mem_map.mp member
      exact ⟨whole entry inside, by simp [serializeList]⟩
    have queues : ∀ line ∈ manager.pendingQueues.entries.map serializeQueue, newline ∉ line := by
      intro line member
      obtain ⟨entry, inside, rfl⟩ := List.mem_map.mp member
      obtain ⟨word, readable, -⟩ := named.users entry inside
      exact newline_notMem_serializeQueue word readable
    simp only [OneLine, not_forall, exists_prop] at broken
    obtain ⟨entry, inside, broken⟩ := broken
    obtain ⟨word, few, each⟩ := named.senders entry inside
    have failed := deserializeList_fails word few each broken
    rw [firstLine_of_free (whole entry inside)] at failed
    obtain ⟨fault, stopped⟩ := @readLines_fails _ (deserializeList stack) _
      (manager.notifications.entries.map serializeList ++ [[]])
      (List.mem_append_left _ (List.mem_map_of_mem inside)) (by simp [serializeList]) failed ∅
    exact ⟨fault, by rw [deserialize_lines named.nextId lists queues, stopped]⟩
  · simp only [not_forall, not_not, exists_prop] at whole
    obtain ⟨first, listed, torn⟩ := whole
    obtain ⟨entry, found⟩ : ∃ entry, manager.notifications.entries.find?
        (fun entry => decide (newline ∈ serializeList entry)) = some entry :=
      Option.isSome_iff_exists.mp (List.find?_isSome.mpr ⟨first, listed, decide_eq_true torn⟩)
    obtain ⟨cut, earlier, later, shape, clean⟩ := List.find?_eq_some_iff_append.mp found
    have inside : entry ∈ manager.notifications.entries := by
      rw [shape]
      exact List.mem_append_right _ List.mem_cons_self
    obtain ⟨word, few, each⟩ := named.senders entry inside
    obtain ⟨before, after, text, free, first⟩ := firstLine_of_broken (of_decide_eq_true cut)
    have begins : firstLine (serializeList entry) = before := by
      simpa using first []
    have broken : ∃ notification ∈ entry.2, ¬ notification.OneLine stack := by
      by_contra none
      have all : ∀ notification ∈ entry.2, notification.OneLine stack :=
        fun notification member => not_not.mp fun torn => none ⟨notification, member, torn⟩
      exact newline_notMem_serializeList word (fun notification member =>
        (each notification member).readable (all notification member).line) (of_decide_eq_true cut)
    have failed := deserializeList_fails word few each broken
    rw [begins] at failed
    have blank : ' ' ∈ before := by
      rw [← begins, firstLine_serializeList word]
      simp
    have lines : ∀ line ∈ earlier.map serializeList, newline ∉ line ∧ ' ' ∈ line := by
      intro line member
      obtain ⟨other, listed, rfl⟩ := List.mem_map.mp member
      exact ⟨by simpa using clean other listed, by simp [serializeList]⟩
    obtain ⟨rest, whole⟩ : ∃ rest, manager.serialize = showNat manager.nextId ++ newline ::
        ((earlier.map serializeList).flatMap (· ++ [newline]) ++ (before ++ newline :: rest)) := by
      refine ⟨after ++ newline :: (later.flatMap (serializeList · ++ [newline]) ++ (sectionMark ++
        manager.pendingQueues.entries.flatMap (serializeQueue · ++ [newline]))), ?_⟩
      rw [serialize, shape, List.flatMap_append, List.flatMap_cons, text, List.flatMap_map]
      simp only [List.append_assoc, List.cons_append, List.nil_append]
    have member := split_front (earlier.map serializeList) rest
      (fun line member => (lines line member).1) (fun line member => (lines line member).2) free blank
    obtain ⟨fault, stopped⟩ := readLines_fails member (by rintro rfl; cases blank) failed ∅
    exact ⟨fault, by rw [whole, deserialize_number named.nextId, stopped]⟩

theorem Named.readable (named : manager.Named stack) (oneLine : manager.OneLine stack) :
    manager.Readable where
  nextId := named.nextId
  senders entry inside := by
    obtain ⟨word, -, each⟩ := named.senders entry inside
    exact ⟨word, fun notification member =>
      (each notification member).readable (oneLine entry inside notification member).line⟩
  users entry inside := by
    obtain ⟨word, readable, -⟩ := named.users entry inside
    exact ⟨word, readable⟩

theorem Named.fits (named : manager.Named stack) (oneLine : manager.OneLine stack) :
    manager.Fits stack where
  senders entry inside := by
    obtain ⟨-, few, each⟩ := named.senders entry inside
    exact ⟨few, fun notification member =>
      (oneLine entry inside notification member).fits (each notification member)⟩
  users entry inside := (named.users entry inside).2.2

end Failing

section Texts

variable {stack : Nat} {manager : NotificationManager}

theorem setMessage_setMessage (manager : NotificationManager) (sender : Text) (index : Nat)
    (first second : Text) :
    (manager.setMessage sender index first).setMessage sender index second =
      manager.setMessage sender index second := by
  simp only [setMessage, changeStored, UnorderedMap.modify_modify]
  congr 2
  funext list
  exact List.modify_modify_eq _ _ index list

/-- Another text changes nothing of what a text is not. -/
theorem Named.setMessage (named : manager.Named stack) (sender : Text) (index : Nat)
    {message : Text} (free : nul ∉ message) :
    (manager.setMessage sender index message).Named stack where
  nextId := named.nextId
  senders entry inside := by
    obtain ⟨before, listed, same⟩ := UnorderedMap.of_mem_modify inside
    obtain ⟨word, few, each⟩ := named.senders _ listed
    rw [same]
    refine ⟨word, ?_, ?_⟩
    · split
      next => rwa [List.length_modify]
      next => exact few
    · split
      next =>
        intro notification member
        obtain ⟨position, found⟩ := List.mem_iff_getElem?.mp member
        rw [List.getElem?_modify] at found
        obtain ⟨old, there, changed⟩ := Option.map_eq_some_iff.mp found
        have valid := each old (List.mem_of_getElem? there)
        split at changed
        next =>
          subst changed
          exact ⟨valid.id, valid.timestamp, valid.username, valid.terminated, valid.pendingCount,
            free⟩
        next => exact changed ▸ valid
      next => exact each
  users := named.users

end Texts

/-- Where all but the texts is as it is read back, two states that differ in one text
are read as states that differ in this text exactly when every text in them is one line. -/
theorem untampered_iff (stack : Nat) (manager : NotificationManager) (named : manager.Named stack)
    (sender : Text) (index : Nat) (first second : Text) (firstFree : nul ∉ first)
    (secondFree : nul ∉ second) :
    (∃ copy, deserialize stack (manager.setMessage sender index first).serialize = .ok copy ∧
      deserialize stack (manager.setMessage sender index second).serialize =
        .ok (copy.setMessage sender index second)) ↔
    (manager.setMessage sender index first).OneLine stack ∧
      (manager.setMessage sender index second).OneLine stack := by
  have firstNamed := named.setMessage sender index firstFree
  have secondNamed := named.setMessage sender index secondFree
  constructor
  · rintro ⟨copy, firstRead, secondRead⟩
    constructor
    · by_contra broken
      obtain ⟨fault, failed⟩ := deserialize_fails firstNamed broken
      rw [firstRead] at failed
      cases failed
    · by_contra broken
      obtain ⟨fault, failed⟩ := deserialize_fails secondNamed broken
      rw [secondRead] at failed
      cases failed
  · rintro ⟨firstLine, secondLine⟩
    obtain ⟨copy, firstRead, id, notifications, queues⟩ :=
      copy_of_readable (firstNamed.readable firstLine) (firstNamed.fits firstLine)
    obtain ⟨other, secondRead, otherId, otherNotifications, otherQueues⟩ :=
      copy_of_readable (secondNamed.readable secondLine) (secondNamed.fits secondLine)
    have same : other = copy.setMessage sender index second := by
      have stored : other.notifications = (copy.setMessage sender index second).notifications := by
        rw [otherNotifications, ← setMessage_setMessage manager sender index first second]
        show (manager.setMessage sender index first).notifications.modify sender _ =
          copy.notifications.modify sender _
        rw [notifications]
      have pending : other.pendingQueues = (copy.setMessage sender index second).pendingQueues :=
        UnorderedMap.ext (otherQueues.trans queues.symm)
      have number : other.nextId = (copy.setMessage sender index second).nextId :=
        otherId.trans id.symm
      cases other
      simp only at stored pending number
      rw [stored, pending, number]
    exact ⟨copy, firstRead, same ▸ secondRead⟩

/-- Two texts of the same notification, and the second has a line end in it. -/
theorem tampered_oneStored :
    ¬ ∃ copy, deserialize 8388608
          ((oneStored trickyTweet).setMessage ['a'] 0 ['h', 'i']).serialize = .ok copy ∧
      deserialize 8388608 ((oneStored trickyTweet).setMessage ['a'] 0 ['h', newline, 'i']).serialize =
        .ok (copy.setMessage ['a'] 0 ['h', newline, 'i']) := by
  have stopped : (deserialize 8388608
      ((oneStored trickyTweet).setMessage ['a'] 0 ['h', newline, 'i']).serialize).toOption = none := by
    decide +kernel
  rintro ⟨copy, -, read⟩
  rw [read] at stopped
  cases stopped

theorem named_oneStored {notification : Notification} (named : notification.Named)
    (fits : (oneStored notification).Fits stack) : (oneStored notification).Named stack := by
  refine ⟨(by decide : 2 < 2 ^ 31), ?_, ?_⟩
  · intro entry member
    rw [List.mem_singleton.mp member]
    refine ⟨isWord_letter rfl, by simp, ?_⟩
    intro other inside
    rw [List.mem_singleton.mp inside]
    exact named
  · intro entry member
    have room := fits.users entry member
    rw [List.mem_singleton.mp member] at room ⊢
    refine ⟨isWord_letter rfl, ⟨?_⟩, room⟩
    intro pending inside
    rw [List.mem_singleton.mp inside]
    exact ⟨isWord_letter rfl, by decide⟩

theorem oneLine_oneStored {notification : Notification} (oneLine : notification.OneLine stack) :
    (oneStored notification).OneLine stack := by
  intro entry member other inside
  rw [List.mem_singleton.mp member] at inside
  rw [List.mem_singleton.mp inside]
  exact oneLine

/-- Texts with the bytes that separate things elsewhere. -/
theorem untampered_oneStored :
    ∃ copy, deserialize 8388608
          ((oneStored trickyTweet).setMessage ['a'] 0 ['h', 'i']).serialize = .ok copy ∧
      deserialize 8388608 ((oneStored trickyTweet).setMessage ['a'] 0 [' ', '&', ',', '7']).serialize =
        .ok (copy.setMessage ['a'] 0 [' ', '&', ',', '7']) :=
  (untampered_iff 8388608 (oneStored trickyTweet)
    (named_oneStored ⟨by decide, by decide, isWord_letter rfl, by decide, by decide, by decide⟩
      (fits_oneStored ⟨by decide, by decide, by decide⟩ (by decide)))
    ['a'] 0 ['h', 'i'] [' ', '&', ',', '7'] (by decide) (by decide)).mpr
    ⟨@oneLine_oneStored 8388608 { trickyTweet with message := ['h', 'i'] }
        ⟨by decide, by decide, by decide⟩,
      @oneLine_oneStored 8388608 { trickyTweet with message := [' ', '&', ',', '7'] }
        ⟨by decide, by decide, by decide⟩⟩

end NotificationManager

end TwitterClone

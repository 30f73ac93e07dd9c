import TwitterClone.Client.NotificationList
import TwitterClone.Foundation.PrintfFormat
import TwitterClone.Foundation.TextWindow
import TwitterClone.Utils.Chunks

/-! What the feed draws: the calls of `mvwprintw` for every item that is shown, the texts they
print and the rows they write. -/
namespace TwitterClone.Client

open Foundation

/-- A call of `mvwprintw`. The text is passed for the format, with no arguments. -/
structure Print where
  row : Int
  column : Int
  format : Text
  deriving DecidableEq, Repr

namespace Print

def shown (print : Print) : Except FormatFault Text := formatAlone print.format

/-- The rows that the call writes when this text is printed: none if it begins outside of the
window, and none below the window's last one. -/
def rows (print : Print) (window : TextWindow) (text : Text) : Set Int :=
  {row | (0 ≤ print.row ∧ 0 ≤ print.column ∧ print.column < window.columns) ∧
    row < window.rows ∧ ∃ line ∈ window.touched 0 print.column.toNat text, row = print.row + line}

/-- The language defines what is printed, and it is written into these rows. -/
def Within (print : Print) (window : TextWindow) (rows : Set Int) : Prop :=
  ∃ text, print.shown = .ok text ∧ print.rows window text ⊆ rows

end Print

/-- The calls for one item. -/
structure DrawnItem where
  printBegin : Int
  clear : List Print
  header : Print
  lines : List Print

namespace DrawnItem

def prints (item : DrawnItem) : List Print := item.clear ++ item.header :: item.lines

/-- No call reads an argument that it was not passed, or has a directive that the language
leaves undefined; and what the lines print is the message up to its greatest length. -/
structure Shows (item : DrawnItem) (message : Text) : Prop where
  defined : ∀ print ∈ item.prints, ∃ text, print.shown = .ok text
  texts : ∃ texts, ShownAs (item.lines.map Print.format) texts ∧
    texts.flatten = message.take Notification.maxSize

end DrawnItem

namespace Notification

def header (notification : Notification) : Text :=
  notification.sender ++ ("  --  ".toList ++ notification.date)

def shortened (notification : Notification) : Text :=
  if notification.message.length > maxSize then notification.message.take maxSize
  else notification.message

theorem shortened_eq (notification : Notification) :
    notification.shortened = notification.message.take maxSize := by
  unfold shortened
  split
  · rfl
  · rw [List.take_of_length_le (by omega)]

end Notification

namespace NotificationList

/-- The rows and the column are those of the window. -/
def drawItem (feed : NotificationList) (printBegin : Int) (n : Notification) : DrawnItem where
  printBegin
  clear := (List.range feed.linesPerItem.toNat).map fun (j : Nat) =>
    ⟨printBegin + j, feed.position.x, cString (List.replicate feed.size.x.toNat ' ')⟩
  header := ⟨printBegin, feed.position.x, cString n.header⟩
  lines := (splitByLength feed.size.x.toNat n.shortened).mapIdx fun j line =>
    ⟨printBegin + 1 + j, feed.position.x, cString line⟩

/-- The loop of `draw`. All its rows are rows of the list, so none is too large for an
`int` if the last one of the list is not. -/
def drawItems (feed : NotificationList) : (i printBegin : Int) → List Notification →
    List DrawnItem
  | _, _, [] => []
  | i, printBegin, n :: rest =>
    if i < feed.itemsPerPage then
      feed.drawItem printBegin n :: drawItems feed (i + 1) (printBegin + feed.linesPerItem) rest
    else []

def draw (feed : NotificationList) : Option (List DrawnItem) :=
  feed.advance.map (feed.drawItems 0 feed.position.y)

/-- The rows that belong to an item. -/
def block (feed : NotificationList) (item : DrawnItem) : Set Int :=
  Set.Ico item.printBegin (item.printBegin + feed.linesPerItem)

/-- The rows that belong to the list. -/
def rows (feed : NotificationList) : Set Int :=
  Set.Ico feed.position.y (feed.position.y + feed.size.y)

/-- The notifications that are drawn. -/
def page (feed : NotificationList) : List Notification :=
  (feed.list.drop feed.showingBegin).take feed.itemsPerPage.toNat

/-- The header and the lines of every item are written into rows of its own, and these are
rows of the list. -/
structure Separate (feed : NotificationList) (window : TextWindow) (items : List DrawnItem) :
    Prop where
  own : ∀ item ∈ items, ∀ print ∈ item.header :: item.lines,
    print.Within window (feed.block item)
  disjoint : items.Pairwise fun first second => Disjoint (feed.block first) (feed.block second)
  inside : ∀ item ∈ items, feed.block item ⊆ feed.rows

/-- In the block with this number, the text takes no more rows than there are below so many.
If the block ends where the window does, all that comes later is cut off. -/
def Holds (feed : NotificationList) (window : TextWindow) (k above : Nat) (format : Text) :
    Prop :=
  ∃ text, formatAlone format = .ok text ∧
    (window.rows ≤ feed.position.y + (k + 1) * feed.linesPerItem ∨
      above + window.height feed.position.x.toNat text ≤ feed.linesPerItem)

/-- The texts of a notification are defined, and the block with this number has the rows
for them: all for the header, and one less for each of the parts of the message. -/
structure Fits (feed : NotificationList) (window : TextWindow) (k : Nat) (n : Notification) :
    Prop where
  header : feed.Holds window k 0 (cString n.header)
  lines : ∀ j line, (splitByLength feed.size.x.toNat n.shortened)[j]? = some line →
    feed.Holds window k (1 + j) (cString line)

/-- Where the program puts the list. -/
def BeginsIn (feed : NotificationList) (window : TextWindow) : Prop :=
  0 ≤ feed.position.y ∧ 0 ≤ feed.position.x ∧ feed.position.x < window.columns

section Rows

variable {feed : NotificationList}

/-- Which item is drawn where. -/
theorem drawItems_eq (i printBegin : Int) (list : List Notification) :
    feed.drawItems i printBegin list = (list.take (feed.itemsPerPage - i).toNat).mapIdx
      fun k n => feed.drawItem (printBegin + k * feed.linesPerItem) n := by
  induction list generalizing i printBegin with
  | nil => simp [drawItems]
  | cons n rest ih =>
    unfold drawItems
    by_cases room : i < feed.itemsPerPage
    · have turns : (feed.itemsPerPage - i).toNat = (feed.itemsPerPage - (i + 1)).toNat + 1 := by
        omega
      rw [if_pos room, turns, List.take_succ_cons, List.mapIdx_cons, ih]
      congr 1
      · simp
      · congr 1
        funext k n
        congr 1
        push_cast
        ring
    · rw [if_neg room, Int.toNat_of_nonpos (by omega)]
      rfl

theorem draw_of_inside (inside : feed.Inside) :
    feed.draw = some (feed.page.mapIdx
      fun k n => feed.drawItem (feed.position.y + k * feed.linesPerItem) n) := by
  unfold Inside at inside
  rw [draw, advance, if_pos inside, Option.map_some, drawItems_eq, sub_zero, page]

theorem width_pos (feed : NotificationList) : 0 < feed.size.x.toNat :=
  Int.lt_toNat.mpr feed.size.width

/-- The message has no more lines than its block has room for behind the header. -/
theorem length_lines_le (n : Notification) :
    ((splitByLength feed.size.x.toNat n.shortened).length : Int) + 2 ≤ feed.linesPerItem := by
  obtain ⟨width, same⟩ := Int.eq_ofNat_of_zero_le feed.size.width.le
  have positive : 0 < width := by
    have := feed.size.width
    omega
  have length : n.shortened.length ≤ Notification.maxSize := by
    rw [Notification.shortened_eq]
    exact List.length_take_le _ _
  rw [linesPerItem_eq, same, Int.toNat_natCast, length_splitByLength positive]
  have taken := Nat.div_mul_le_self (n.shortened.length - 1) width
  have room : -(Notification.maxSize : Int) / width <
      -((n.shortened.length - 1) / width : Nat) := by
    rw [Int.ediv_lt_iff_lt_mul (by omega), neg_mul, ← Nat.cast_mul]
    unfold Notification.maxSize at length ⊢
    omega
  push_cast at room ⊢
  omega

/-- What begins in a block stays there if there are rows enough, and otherwise the row behind
the block is written, unless that is not in the window. -/
theorem within_iff {window : TextWindow} {print : Print} {first lines : Int} {above : Nat}
    (place : print.row = first + above) (starts : 0 ≤ first) (inBlock : above ≤ lines)
    (column : 0 ≤ print.column ∧ print.column < window.columns) :
    print.Within window (Set.Ico first (first + lines)) ↔
      ∃ text, print.shown = .ok text ∧ (window.rows ≤ first + lines ∨
        above + window.height print.column.toNat text ≤ lines) := by
  refine exists_congr fun text => and_congr_right fun _ => ?_
  have inside : print.column.toNat < window.columns := by
    omega
  have start : 0 ≤ print.row := by
    omega
  constructor
  · intro own
    by_contra neither
    rw [not_or] at neither
    obtain ⟨early, long⟩ := neither
    -- the first row behind the block
    have reached : (lines - above).toNat ∈ window.touched 0 print.column.toNat text :=
      (TextWindow.mem_touched inside).mpr ⟨Nat.zero_le _, by omega⟩
    have outside : first + lines ∈ Set.Ico first (first + lines) :=
      own ⟨⟨start, column⟩, by omega, _, reached, by omega⟩
    exact outside.2.false
  · rintro room row ⟨-, below, line, written, rfl⟩
    have short := ((TextWindow.mem_touched inside).mp written).2
    constructor <;> omega

/-- The calls for an item stay in its block exactly if the notification fits there. -/
theorem own_iff {window : TextWindow} (begins : feed.BeginsIn window) (k : Nat)
    (n : Notification) :
    (∀ print ∈ (feed.drawItem (feed.position.y + k * feed.linesPerItem) n).header ::
        (feed.drawItem (feed.position.y + k * feed.linesPerItem) n).lines,
      print.Within window (feed.block
        (feed.drawItem (feed.position.y + k * feed.linesPerItem) n))) ↔
      feed.Fits window k n := by
  obtain ⟨top, left, right⟩ := begins
  have lines := feed.linesPerItem_pos
  have length := @length_lines_le feed n
  have start : 0 ≤ (k : Int) * feed.linesPerItem := by positivity
  have last : feed.position.y + k * feed.linesPerItem + feed.linesPerItem =
      feed.position.y + (k + 1) * feed.linesPerItem := by
    ring
  have at' : ∀ (above : Nat) (format : Text), (above : Int) ≤ feed.linesPerItem →
      (Print.Within ⟨feed.position.y + k * feed.linesPerItem + above, feed.position.x, format⟩
        window (feed.block (feed.drawItem (feed.position.y + k * feed.linesPerItem) n)) ↔
          feed.Holds window k above format) := by
    intro above format inBlock
    have within := @within_iff window
      ⟨feed.position.y + k * feed.linesPerItem + above, feed.position.x, format⟩ _ _ above rfl
      (by omega) inBlock ⟨left, right⟩
    rw [last] at within
    rw [Holds, block, drawItem, last]
    exact within
  rw [List.forall_mem_cons]
  constructor
  · rintro ⟨header, written⟩
    refine ⟨(at' 0 _ (by omega)).mp (by simpa [drawItem] using header), fun j line there => ?_⟩
    obtain ⟨inside, same⟩ := List.getElem?_eq_some_iff.mp there
    refine (at' (1 + j) _ (by omega)).mp ?_
    have called := written _ (List.mem_mapIdx.mpr ⟨j, inside, rfl⟩)
    rw [same, add_assoc] at called
    exact_mod_cast called
  · intro fits
    refine ⟨by simpa [drawItem] using (at' 0 _ (by omega)).mpr fits.header, ?_⟩
    intro print member
    obtain ⟨j, inside, rfl⟩ := List.mem_mapIdx.mp member
    have called := (at' (1 + j) _ (by omega)).mpr
      (fits.lines j _ (List.getElem?_eq_getElem inside))
    rw [add_assoc]
    exact_mod_cast called

/-- Pages of whole blocks do not reach behind the last row. -/
theorem blocks_le {k : Nat} (shown : k < feed.itemsPerPage) :
    (k + 1) * feed.linesPerItem ≤ feed.size.y := by
  have lines := feed.linesPerItem_pos
  rw [itemsPerPage_eq] at shown
  calc (k + 1) * feed.linesPerItem ≤ feed.size.y / feed.linesPerItem * feed.linesPerItem :=
        Int.mul_le_mul_of_nonneg_right (by omega) (by omega)
    _ ≤ feed.size.y := Int.ediv_mul_le _ (by omega)

end Rows

/-- The blocks of a page are apart, and in the list. -/
theorem blocks_apart (feed : NotificationList) :
    (feed.page.mapIdx fun k n => feed.drawItem (feed.position.y + k * feed.linesPerItem) n).Pairwise
        (fun first second => Disjoint (feed.block first) (feed.block second)) ∧
      ∀ item ∈ feed.page.mapIdx fun k n =>
          feed.drawItem (feed.position.y + k * feed.linesPerItem) n,
        feed.block item ⊆ feed.rows := by
  have lines := feed.linesPerItem_pos
  constructor
  · rw [List.pairwise_iff_getElem]
    intro first second _ _ order
    rw [List.getElem_mapIdx, List.getElem_mapIdx]
    rw [Set.disjoint_left]
    intro row here there
    have apart : ((first : Int) + 1) * feed.linesPerItem ≤ second * feed.linesPerItem :=
      Int.mul_le_mul_of_nonneg_right (by omega) (by omega)
    obtain ⟨_, before⟩ := here
    obtain ⟨behind, _⟩ := there
    dsimp only [drawItem] at before behind
    rw [add_mul, one_mul] at apart
    omega
  · intro item member row inBlock
    obtain ⟨low, high⟩ := inBlock
    obtain ⟨k, shown, rfl⟩ := List.mem_mapIdx.mp member
    have nonneg := feed.itemsPerPage_nonneg
    have room := @blocks_le feed k (by rw [page, List.length_take] at shown; omega)
    have start : 0 ≤ (k : Int) * feed.linesPerItem := by positivity
    dsimp only [drawItem] at low high
    rw [add_mul, one_mul] at room
    constructor <;> omega

/-- The items of a page are drawn into rows of their own exactly if every notification fits
into its block: the blocks are as high as the longest message is without line ends, and
nothing takes these out of what is printed. -/
theorem separate_iff (feed : NotificationList) (inside : feed.Inside) (window : TextWindow)
    (begins : feed.BeginsIn window) :
    ∃ items, feed.draw = some items ∧
      (feed.Separate window items ↔
        ∀ k n, feed.page[k]? = some n → feed.Fits window k n) := by
  refine ⟨_, draw_of_inside inside, ?_⟩
  obtain ⟨disjoint, inList⟩ := blocks_apart feed
  constructor
  · intro separate k n there
    obtain ⟨shown, same⟩ := List.getElem?_eq_some_iff.mp there
    exact (own_iff begins k n).mp
      (separate.own _ (List.mem_mapIdx.mpr ⟨k, shown, by rw [same]⟩))
  · intro fits
    refine ⟨?_, disjoint, inList⟩
    intro item member
    obtain ⟨k, shown, rfl⟩ := List.mem_mapIdx.mp member
    exact (own_iff begins k _).mpr (fits k _ (List.getElem?_eq_getElem shown))

section Plain

variable {feed : NotificationList}

/-- A text that shows itself and takes one row. -/
def OneRow (feed : NotificationList) (window : TextWindow) (text : Text) : Prop :=
  (∀ byte ∈ text, byte ≠ '%' ∧ window.SingleCell byte) ∧
    feed.position.x.toNat + text.length ≤ window.columns

theorem OneRow.holds {window : TextWindow} {text : Text} (row : feed.OneRow window text) (k : Nat)
    {above : Nat} (room : (above : Int) + 1 ≤ feed.linesPerItem) :
    feed.Holds window k above (cString text) := by
  have part : cString text <+: text := List.takeWhile_prefix _
  have shown : formatAlone (cString text) = .ok (cString text) :=
    formatAlone_of_free fun percent => (row.1 _ (part.subset percent)).1 rfl
  have single := @TextWindow.height_of_singleCells window (cString text)
    (fun byte member => (row.1 byte (part.subset member)).2) feed.position.x.toNat
    ((Nat.add_le_add_left part.length_le _).trans row.2)
  exact ⟨_, shown, Or.inr (by omega)⟩

/-- In a window that is as wide as the list, messages of one line fit whatever their length,
with headers of one row. -/
theorem fits_of_plain {window : TextWindow} {n : Notification}
    (wide : feed.position.x.toNat + feed.size.x.toNat ≤ window.columns)
    (header : feed.OneRow window n.header)
    (message : ∀ byte ∈ n.message, byte ≠ '%' ∧ window.SingleCell byte) (k : Nat) :
    feed.Fits window k n := by
  have lines := feed.linesPerItem_pos
  have length := @length_lines_le feed n
  refine ⟨header.holds k (by omega), fun j line there => ?_⟩
  obtain ⟨inside, rfl⟩ := List.getElem?_eq_some_iff.mp there
  have member := List.getElem_mem inside
  refine OneRow.holds ⟨fun byte mine => message byte ?_, ?_⟩ k (by omega)
  · have whole : byte ∈ (splitByLength feed.size.x.toNat n.shortened).flatten :=
      List.mem_flatten.mpr ⟨_, member, mine⟩
    rw [flatten_splitByLength feed.width_pos, Notification.shortened_eq] at whole
    exact List.mem_of_mem_take whole
  · have short := length_le_of_mem_splitByLength feed.width_pos member
    omega

end Plain

/-- The window of the feed, where every byte but a line end takes one cell. -/
def feedWindow : TextWindow where
  rows := 14
  columns := 60
  behind := fun column _ => column + 1
  wide := by decide

/-- Two notifications with one line each. -/
def twoItems : NotificationList where
  position := ⟨1, 1⟩
  size := feedSize
  list := [⟨1, ['@', 'a'], [], ['h', 'i']⟩, ⟨2, ['@', 'a'], [], ['h', 'o']⟩]

theorem separate_twoItems :
    ∃ items, twoItems.draw = some items ∧ twoItems.Separate feedWindow items := by
  obtain ⟨items, drawn, exact'⟩ :=
    separate_iff twoItems (Nat.zero_le 2) feedWindow ⟨by decide, by decide, by decide⟩
  have single : ∀ byte, byte ≠ newline → feedWindow.SingleCell byte :=
    fun byte other => ⟨other, fun _ => rfl⟩
  have plain : ∀ n ∈ twoItems.list, n.header = ['@', 'a', ' ', ' ', '-', '-', ' ', ' '] ∧
      ∀ byte ∈ n.message, byte ≠ '%' ∧ byte ≠ newline := by
    simp only [twoItems, List.forall_mem_cons]
    exact ⟨⟨rfl, by simp [newline]⟩, ⟨rfl, by simp [newline]⟩, by simp⟩
  have bytes : ∀ byte ∈ ['@', 'a', ' ', ' ', '-', '-', ' ', ' '], byte ≠ '%' ∧ byte ≠ newline := by
    simp [newline]
  refine ⟨items, drawn, exact'.mpr fun k n there => ?_⟩
  have listed : n ∈ twoItems.list :=
    List.mem_of_mem_drop (List.mem_of_mem_take (List.mem_of_getElem? there))
  obtain ⟨header, message⟩ := plain n listed
  refine fits_of_plain (by decide) ⟨?_, by rw [header]; decide⟩ (fun byte member => ?_) k
  · rw [header]
    exact fun byte member => ⟨(bytes byte member).1, single byte (bytes byte member).2⟩
  · exact ⟨(message byte member).1, single byte (message byte member).2⟩

/-- A message of fifteen bytes, seven of them line ends. -/
def sevenLineEnds : Notification where
  id := 1
  sender := ['@', 'a']
  date := []
  message := ['a', newline, 'b', newline, 'c', newline, 'd', newline, 'e', newline, 'f', newline,
    'g', newline, 'h']

/-- It goes on below its block, and below the list if that has no other block. -/
theorem not_separate_sevenLineEnds :
    Inside { twoItems with list := [sevenLineEnds] } ∧
      ∃ items, { twoItems with list := [sevenLineEnds] : NotificationList }.draw = some items ∧
        ¬ Separate { twoItems with list := [sevenLineEnds] } feedWindow items := by
  obtain ⟨feed, same⟩ : ∃ feed : NotificationList,
      feed = { twoItems with list := [sevenLineEnds] } := ⟨_, rfl⟩
  have lines : feed.linesPerItem = 6 := by
    rw [linesPerItem_eq, same]
    decide
  have inside : feed.Inside := by
    rw [Inside, same]
    decide
  have first : feed.page[0]? = some sevenLineEnds := by
    rw [page, itemsPerPage_eq, lines, same]
    rfl
  have begins : feed.BeginsIn feedWindow := by
    rw [same]
    exact ⟨by decide, by decide, by decide⟩
  have end' : feed.position.y = 1 ∧ feed.size.x.toNat = 58 := by
    rw [same]
    exact ⟨rfl, rfl⟩
  rw [← same]
  refine ⟨inside, _, draw_of_inside inside, fun separate => ?_⟩
  obtain ⟨shown, there⟩ := List.getElem?_eq_some_iff.mp first
  have fits := (own_iff begins 0 sevenLineEnds).mp
    (separate.own _ (List.mem_mapIdx.mpr ⟨0, shown, by rw [there]⟩))
  have whole : splitByLength feed.size.x.toNat sevenLineEnds.shortened =
      [sevenLineEnds.message] := by
    rw [end'.2]
    exact splitByLength_of_short (by decide)
  obtain ⟨text, printed, room⟩ := fits.lines 0 sevenLineEnds.message (by rw [whole]; rfl)
  rw [formatAlone_of_free (by decide)] at printed
  obtain rfl := Except.ok.inj printed
  -- the block has five rows below the header, and the line ends alone take seven
  have tall := @TextWindow.count_le_height feedWindow (cString sevenLineEnds.message)
    feed.position.x.toNat
  have seven : (cString sevenLineEnds.message).count newline = 7 := by
    decide
  have bottom : feedWindow.rows = 14 := rfl
  rw [lines, end'.1, bottom] at room
  omega

section Texts

variable {feed : NotificationList} {printBegin : Int} {n : Notification}

theorem formats_lines (free : nul ∉ n.message) :
    (feed.drawItem printBegin n).lines.map Print.format =
      splitByLength feed.size.x.toNat n.shortened := by
  apply List.ext_getElem (by simp [drawItem])
  intro j _ inside
  have part : (splitByLength feed.size.x.toNat n.shortened)[j] ⊆ n.message := by
    intro byte member
    have whole : byte ∈ (splitByLength feed.size.x.toNat n.shortened).flatten :=
      List.mem_flatten.mpr ⟨_, List.getElem_mem inside, member⟩
    rw [flatten_splitByLength feed.width_pos, Notification.shortened_eq] at whole
    exact List.mem_of_mem_take whole
  simp only [drawItem, List.getElem_map, List.getElem_mapIdx]
  exact cString_of_free fun member => free (part member)

theorem flatten_formats (free : nul ∉ n.message) :
    ((feed.drawItem printBegin n).lines.map Print.format).flatten =
      n.message.take Notification.maxSize := by
  rw [formats_lines free, flatten_splitByLength feed.width_pos, Notification.shortened_eq]

theorem clear_shown {print : Print} (member : print ∈ (feed.drawItem printBegin n).clear) :
    ∃ text, print.shown = .ok text := by
  obtain ⟨j, -, rfl⟩ := List.mem_map.mp member
  refine ⟨_, formatAlone_of_free ?_⟩
  intro inside
  have blank := List.eq_of_mem_replicate ((List.takeWhile_prefix _).subset inside)
  exact absurd blank (by decide)

/-- An item shows what was sent exactly if the part of the message that is shown has no
percent sign and the header has them in pairs, whatever the width. -/
theorem shows_iff (feed : NotificationList) (printBegin : Int) (n : Notification)
    (free : nul ∉ n.message) :
    (feed.drawItem printBegin n).Shows n.message ↔
      '%' ∉ n.message.take Notification.maxSize ∧ PercentsPaired (cString n.header) := by
  have lines := @exists_shownAs_iff ((feed.drawItem printBegin n).lines.map Print.format)
  rw [flatten_formats free] at lines
  constructor
  · intro shows
    refine ⟨lines.mp shows.texts, exists_formatAlone_iff.mp ?_⟩
    exact shows.defined (feed.drawItem printBegin n).header
      (List.mem_append_right _ List.mem_cons_self)
  · rintro ⟨plain, paired⟩
    refine ⟨?_, lines.mpr plain⟩
    intro print member
    rcases List.mem_append.mp member with clear | written
    · exact clear_shown clear
    · rcases List.mem_cons.mp written with rfl | line
      · exact formatAlone_of_paired paired
      · refine ⟨_, formatAlone_of_free ?_⟩
        intro inside
        rw [← @flatten_formats feed printBegin n free] at plain
        exact plain (List.mem_flatten.mpr ⟨_, List.mem_map_of_mem line, inside⟩)

end Texts

/-- A message without a percent sign, from a user whose name has a pair of them. -/
theorem shows_greeting :
    ({ position := ⟨1, 1⟩, size := feedSize : NotificationList }.drawItem 1
        ⟨1, "@a%%".toList, "today".toList, "hello".toList⟩).Shows "hello".toList ↔
      '%' ∉ "hello".toList.take Notification.maxSize ∧
        PercentsPaired (cString "@a%%  --  today".toList) :=
  shows_iff _ _ ⟨1, "@a%%".toList, "today".toList, "hello".toList⟩ (by decide)

/-- A message with a percent sign makes the program read an argument that is not there. -/
theorem not_shows_sale :
    ¬ ({ position := ⟨1, 1⟩, size := feedSize : NotificationList }.drawItem 1
        ⟨1, "@shop".toList, "today".toList, "50% off".toList⟩).Shows "50% off".toList := by
  intro shows
  obtain ⟨text, shown⟩ := shows.defined ⟨2, 1, "50% off".toList⟩
    (List.mem_append_right _ (List.mem_cons_of_mem _ (List.mem_cons_self ..)))
  cases shown

end NotificationList

end TwitterClone.Client

import TwitterClone.Client.Notification
import TwitterClone.Foundation.Machine
import TwitterClone.Foundation.Rounding

/-! The list of notifications in the client's feed window, and how it is scrolled. -/
namespace TwitterClone.Client

open Foundation

structure Vector2 where
  x : Int
  y : Int
  deriving DecidableEq, Repr

/-- The size of a list that is at least one column wide. -/
structure ListSize extends Vector2 where
  width : 0 < x
  height : 0 ≤ y
  ints : IsInt x ∧ IsInt y

structure NotificationList where
  position : Vector2
  size : ListSize
  list : List Notification := []
  showingBegin : Nat := 0

def Notification.maxSize : Nat := 128

namespace NotificationList

/-- The code takes the quotient in floating point; that makes no difference:
`linesPerItem_rounded`. -/
def linesPerItem (feed : NotificationList) : Int :=
  1 + 2 + ⌈(Notification.maxSize : ℚ) / feed.size.x⌉

def itemsPerPage (feed : NotificationList) : Int := feed.size.y.tdiv feed.linesPerItem

def addItem (feed : NotificationList) (item : Notification) : NotificationList :=
  { feed with list := item :: feed.list }

/-- The difference is one of 64-bit unsigned numbers. -/
def showNext (feed : NotificationList) : NotificationList :=
  if feed.showingBegin < (feed.list.length - feed.itemsPerPage) % 2 ^ 64 then
    { feed with showingBegin := feed.showingBegin + 1 }
  else feed

def showPrevious (feed : NotificationList) : NotificationList :=
  if feed.showingBegin > 0 then { feed with showingBegin := feed.showingBegin - 1 } else feed

/-- The iterator that `draw` starts from, as the list behind it: `std::advance` must not
go past the end. -/
def advance (feed : NotificationList) : Option (List Notification) :=
  if feed.showingBegin ≤ feed.list.length then some (feed.list.drop feed.showingBegin) else none

inductive FeedCall where
  | addItem (item : Notification)
  | showNext
  | showPrevious

def step (feed : NotificationList) : FeedCall → Option NotificationList
  | .addItem item => some (feed.addItem item)
  | .showNext => some feed.showNext
  | .showPrevious => some feed.showPrevious

/-- The first item that is shown is in the list or right behind it, so that `std::advance`
can reach it: `inside_iff_advance`. -/
def Inside (feed : NotificationList) : Prop := feed.showingBegin ≤ feed.list.length

/-- Scrolling on is asked for when the list fills a page, or when there is an item to
scroll past. -/
def StaysInside (feed : NotificationList) : FeedCall → Prop
  | .showNext => feed.itemsPerPage ≤ feed.list.length ∨ feed.showingBegin < feed.list.length
  | .addItem _ => True
  | .showPrevious => True

variable {feed : NotificationList}

theorem inside_iff_advance : feed.Inside ↔ feed.advance.isSome = true := by
  unfold Inside advance
  by_cases inside : feed.showingBegin ≤ feed.list.length
  · simp [inside]
  · simp [inside]

theorem linesPerItem_rounded {round : ℚ → ℚ} (rounding : Rounding round)
    (feed : NotificationList) :
    1 + 2 + ⌈round (Notification.maxSize / round feed.size.x)⌉ = feed.linesPerItem := by
  have quotient := @Rounding.ceil_div round Notification.maxSize feed.size.x rounding (by decide)
    (by decide) feed.size.width feed.size.ints.1.2
  rw [linesPerItem, ← Int.cast_natCast Notification.maxSize, quotient]

theorem linesPerItem_eq (feed : NotificationList) :
    feed.linesPerItem = 1 + 2 - -(Notification.maxSize : Int) / feed.size.x := by
  obtain ⟨width, same⟩ := Int.eq_ofNat_of_zero_le feed.size.width.le
  have quotient := Rat.ceil_intCast_div_natCast Notification.maxSize width
  rw [linesPerItem, same, Int.cast_natCast, ← Int.cast_natCast Notification.maxSize, quotient]
  rfl

theorem linesPerItem_pos (feed : NotificationList) : 3 < feed.linesPerItem := by
  have width : (0 : ℚ) < feed.size.x := by
    exact_mod_cast feed.size.width
  have quotient : 0 < ⌈(Notification.maxSize : ℚ) / feed.size.x⌉ :=
    Int.ceil_pos.mpr (div_pos (by norm_num [Notification.maxSize]) width)
  unfold linesPerItem
  omega

theorem itemsPerPage_eq (feed : NotificationList) :
    feed.itemsPerPage = feed.size.y / feed.linesPerItem :=
  Int.tdiv_eq_ediv_of_nonneg feed.size.height

theorem itemsPerPage_nonneg (feed : NotificationList) : 0 ≤ feed.itemsPerPage := by
  have lines := feed.linesPerItem_pos
  rw [itemsPerPage_eq]
  exact Int.ediv_nonneg feed.size.height (by omega)

theorem itemsPerPage_le (feed : NotificationList) : feed.itemsPerPage ≤ feed.size.y := by
  have lines := feed.linesPerItem_pos
  rw [itemsPerPage_eq]
  exact Int.ediv_le_self _ feed.size.height

/-- With fewer items than a page has room for the difference wraps round, and nothing
stops the scrolling. -/
theorem showNext_of_short (inside : feed.Inside) (short : feed.list.length < feed.itemsPerPage) :
    feed.showNext = { feed with showingBegin := feed.showingBegin + 1 } := by
  have page := feed.itemsPerPage_le
  have small := feed.size.ints.2.2
  have wrapped : ((feed.list.length : Int) - feed.itemsPerPage) % 2 ^ 64 =
      feed.list.length - feed.itemsPerPage + 2 ^ 64 := by
    rw [← Int.add_emod_right, Int.emod_eq_of_lt (by omega) (by omega)]
  unfold Inside at inside
  rw [showNext, if_pos (by omega)]

theorem showNext_of_page (page : feed.itemsPerPage ≤ feed.list.length) (inside : feed.Inside) :
    feed.showNext.Inside := by
  have nonneg := feed.itemsPerPage_nonneg
  have wrapped : ((feed.list.length : Int) - feed.itemsPerPage) % 2 ^ 64 ≤
      feed.list.length - feed.itemsPerPage := by
    omega
  unfold showNext
  split
  next early =>
    unfold Inside
    dsimp only
    omega
  next => exact inside

theorem inside_showNext_iff (inside : feed.Inside) :
    feed.showNext.Inside ↔ feed.StaysInside .showNext := by
  unfold StaysInside
  by_cases page : feed.itemsPerPage ≤ feed.list.length
  · exact iff_of_true (showNext_of_page page inside) (.inl page)
  · rw [showNext_of_short inside (by omega), or_iff_right page]
    exact Nat.succ_le_iff

/-- What one call does to the first item that is shown. -/
theorem inside_step_iff {call : FeedCall} {next : NotificationList} (inside : feed.Inside)
    (taken : feed.step call = some next) : next.Inside ↔ feed.StaysInside call := by
  cases call with
  | addItem item =>
    rw [← Option.some.inj taken]
    exact iff_of_true (Nat.le_succ_of_le inside) trivial
  | showNext =>
    rw [← Option.some.inj taken]
    exact inside_showNext_iff inside
  | showPrevious =>
    rw [← Option.some.inj taken]
    refine iff_of_true ?_ trivial
    unfold showPrevious
    split
    · exact (Nat.sub_le _ _).trans inside
    · exact inside

theorem exists_run (feed : NotificationList) (calls : List FeedCall) :
    ∃ final, run step feed calls = some final := by
  induction calls generalizing feed with
  | nil => exact ⟨feed, rfl⟩
  | cons call rest ih =>
    cases call with
    | addItem item => exact ih _
    | showNext => exact ih _
    | showPrevious => exact ih _

/-- Scrolling stays inside the list exactly in the runs that scroll on only while the
list fills a page or has an item to scroll past. -/
theorem always_inside_iff (position : Vector2) (size : ListSize) (calls : List FeedCall) :
    Always step Inside { position, size } calls ↔
      AllMeet step StaysInside { position, size } calls := by
  obtain ⟨final, reached⟩ := exists_run { position, size } calls
  exact always_iff_allMeet (fun _ _ _ inside taken => inside_step_iff inside taken) (Nat.zero_le 0)
    reached

/-- The feed's size on a screen of 24 lines. -/
def feedSize : ListSize where
  x := 58
  y := 13
  width := by decide
  height := by decide
  ints := by decide

/-- Scrolling on in an empty feed. -/
theorem not_always_inside_empty :
    ¬ Always step Inside { position := ⟨1, 1⟩, size := feedSize } [.showNext] := by
  intro always
  rcases (@inside_showNext_iff { position := ⟨1, 1⟩, size := feedSize } (Nat.zero_le 0)).mp
    (always.2 _ rfl) with page | before
  · rw [itemsPerPage, linesPerItem_eq] at page
    exact absurd page (by decide)
  · exact absurd before (by decide)

end NotificationList

end TwitterClone.Client

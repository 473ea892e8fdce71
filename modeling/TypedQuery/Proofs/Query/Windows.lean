import TypedQuery.Proofs.Value.Writable
import TypedQuery.Query.Compile

/-! # Windows of results

The parts of a window are naturals, and its size has a limit. What is no window is refused with a
message that shows the number at fault, unless that number is too long to be written. -/

namespace TypedQuery
set_option autoImplicit false

/-! ## Parts of windows -/

/-- Why a value is no part of a window: it is no natural, and if it is an integer, this one can be
shown or not. -/
inductive PartFault (v : Value) : Error → Prop
  | shown {fault : InputFault} : (∀ n : Nat, v ≠ .int n) → (∀ n : Int, v = .int n → isShort n = true) →
    PartFault v (.input fault)
  | overlong {n : Int} : v = .int n → n < 0 → isShort n = false → PartFault v (.misuse .badValue)

theorem windowNegative_raised (label : String) (n : Int) :
    Error.raised (.input (.windowNegative label n))
      = if isShort n then .input (.windowNegative label n) else .misuse .badValue := by
  have worded : (Error.input (.windowNegative label n)).message?.isSome = isShort n := by
    rw [Error.message?, InputFault.message?, intText?]
    cases isShort n <;> rfl
  rw [Error.raised, worded]

theorem checkWindowPart_decides (label : String) (v : Value) :
    Decides (PartFault v) (fun n : Nat => v = .int n) (checkWindowPart label v) := by
  unfold checkWindowPart
  split
  · rename_i n
    split
    · rename_i negative
      rw [refuse, windowNegative_raised]
      cases short : isShort n with
      | true =>
        refine .refused (.shown ?_ ?_)
        · rintro m ⟨⟩
          omega
        · rintro _ ⟨⟩
          exact short
      | false => exact .refused (.overlong rfl negative short)
    · exact .ok (congrArg Value.int (by omega))
  · rename_i noInteger
    exact .refused (.shown (fun n => noInteger n) fun n same => absurd same (noInteger n))

theorem checkWindowPart_nat (label : String) (n : Nat) : checkWindowPart label (.int n) = .ok n := by
  rw [checkWindowPart, if_neg (Int.not_lt.2 (Int.natCast_nonneg n)), Int.toNat_natCast]

/-! ## Whole windows -/

/-- Two values that are not the offset and the size of a window. -/
inductive NoWindow (offset count : Value) (highest : Nat) : Prop
  | offset : (∀ n : Nat, offset ≠ .int n) → NoWindow offset count highest
  | count : (∀ n : Nat, n ≤ highest → count ≠ .int n) → NoWindow offset count highest

/-- The number at fault has too many digits: a negative offset, or after a proper offset the size. -/
inductive OverlongWindow (offset count : Value) : Prop
  | offset {n : Int} : offset = .int n → n < 0 → isShort n = false → OverlongWindow offset count
  | count {start : Nat} {n : Int} : offset = .int start → count = .int n → isShort n = false →
    OverlongWindow offset count

/-- Why two values are no window. -/
inductive WindowFault (offset count : Value) (highest : Nat) : Error → Prop
  | shown {fault : InputFault} : NoWindow offset count highest → ¬ OverlongWindow offset count →
    WindowFault offset count highest (.input fault)
  | overlong : OverlongWindow offset count → WindowFault offset count highest (.misuse .badValue)

theorem windowTooLarge_raised (n : Int) {highest : Int} (short : isShort highest = true) :
    Error.raised (.input (.windowTooLarge n (.int highest)))
      = if isShort n then .input (.windowTooLarge n (.int highest)) else .misuse .badValue := by
  have worded : (Error.input (.windowTooLarge n (.int highest))).message?.isSome = isShort n := by
    rw [Error.message?, InputFault.message?, Value.display?_int, intText?, intText?, short]
    cases isShort n <;> rfl
  rw [Error.raised, worded]

variable {offset count : Value} {highest : Nat}

/-- Behind a proper offset it is the size that is too long. -/
theorem OverlongWindow.size {start : Nat} (h : OverlongWindow offset count)
    (first : offset = .int start) : ∃ n : Int, count = .int n ∧ isShort n = false := by
  cases h with
  | offset same negative =>
    cases first.symm.trans same
    omega
  | count _ same long => exact ⟨_, same, long⟩

theorem PartFault.ofOffset {e : Error} (h : PartFault offset e) :
    WindowFault offset count highest e := by
  cases h with
  | shown unlike short =>
    refine .shown (.offset unlike) fun long => ?_
    cases long with
    | offset same _ long => exact absurd (long.symm.trans (short _ same)) Bool.false_ne_true
    | count same => exact unlike _ same
  | overlong same negative long => exact .overlong (.offset same negative long)

theorem PartFault.ofCount {e : Error} {start : Nat} (first : offset = .int start)
    (h : PartFault count e) : WindowFault offset count highest e := by
  cases h with
  | shown unlike short =>
    refine .shown (.count fun n _ => unlike n) fun long => ?_
    obtain ⟨n, same, long⟩ := long.size first
    exact absurd (long.symm.trans (short n same)) Bool.false_ne_true
  | overlong same _ long => exact .overlong (.count first same long)

theorem checkWindow_decides (offset count : Value) (short : isShort highest = true) :
    Decides (WindowFault offset count highest)
      (fun window => offset = .int window.1 ∧ count = .int window.2 ∧ window.2 ≤ highest)
      (checkWindow offset count (.int highest)) := by
  unfold checkWindow
  refine ((checkWindowPart_decides _ offset).because fun e why => why.ofOffset).bind
    fun start first => ?_
  refine ((checkWindowPart_decides _ count).because fun e why => why.ofCount first).bind
    fun size sized => ?_
  rw [Value.lessThan_int, ok_bind]
  by_cases large : (highest : Int) < size
  · rw [decide_eq_true large, refuse, windowTooLarge_raised _ short]
    cases written : isShort size with
    | true =>
      refine .refused (.shown (.count ?_) fun long => ?_)
      · rintro n within same
        cases sized.symm.trans same
        omega
      · obtain ⟨n, same, long⟩ := long.size first
        cases sized.symm.trans same
        exact absurd (long.symm.trans written) Bool.false_ne_true
    | false => exact .refused (.overlong (.count first sized written))
  · rw [decide_eq_false large]
    exact .ok ⟨first, sized, by omega⟩

theorem checkWindow_nat {start size highest : Nat} (small : size ≤ highest) :
    checkWindow (.int start) (.int size) (.int highest) = .ok (start, size) := by
  have above : Value.lessThan (.int highest) (.int size) = .ok false := by
    rw [Value.lessThan_int, Except.ok.injEq, decide_eq_false_iff_not]
    omega
  rw [checkWindow, checkWindowPart_nat, checkWindowPart_nat]
  simp [above]

theorem checkWindow_overlong (long : OverlongWindow offset count) (short : isShort highest = true) :
    checkWindow offset count (.int highest) = .error (.misuse .badValue) := by
  cases outcome : checkWindow offset count (.int highest) with
  | ok window =>
    obtain ⟨first, sized, small⟩ := (checkWindow_decides offset count short).of_ok outcome
    obtain ⟨n, same, long⟩ := long.size first
    cases sized.symm.trans same
    exact absurd (long.symm.trans (isShort_of_le small short)) Bool.false_ne_true
  | error e =>
    cases (checkWindow_decides offset count short).of_error outcome with
    | shown _ written => exact absurd long written
    | overlong => rfl

/-! ## Windows of options -/

namespace Compiler

variable {o : SearchOptions} {limit : Option Window}

theorem isShort_largestWindow : isShort largestWindow = true := isShort_of_lt (by decide)

theorem windowOf_overlong (given : o.count ≠ .null) (long : OverlongWindow o.offset o.count) :
    windowOf o = .error (.misuse .badValue) := by
  unfold windowOf
  split
  · contradiction
  · rw [checkWindow_overlong long isShort_largestWindow]
    rfl

end Compiler

end TypedQuery

import FeatureFlow.Execution.Run

/-! Arithmetic on ints. Sums, differences, products and negatives are exact up to multiples of `2 ^
64`, and so are the totals of lists. Quotients and remainders are exact, or there are none. -/
namespace FeatureFlow

/-- The whole number wraps around to the int. -/
def Wraps (x : Int) (n : Int64) : Prop := n.toInt = x.bmod Int64.size

/-- There is no quotient, or it is one more than the greatest int. -/
def Indivisible (a b : Int64) : Prop := b = 0 ∨ a = Int64.minValue ∧ b = -1

namespace Wraps

variable {x y : Int} {m n : Int64}

theorem unique (hm : Wraps x m) (hn : Wraps x n) : m = n := Int64.toInt_inj.mp (hm.trans hn.symm)

theorem self (n : Int64) : Wraps n.toInt n := (Int64.toInt_bmod_size n).symm

theorem add (hm : Wraps x m) (hn : Wraps y n) : Wraps (x + y) (m + n) := by
  have hsum : Wraps (m.toInt + n.toInt) (m + n) := Int64.toInt_add m n
  rw [Wraps, hsum, hm, hn, Int.bmod_add_bmod, Int.add_bmod_bmod]

end Wraps

namespace Arithmetic

variable {a b : Int64}

theorem onInts_of_indivisible (h : Indivisible a b) :
    div.onInts a b = .error .divisionByZero ∧ rem.onInts a b = .error .divisionByZero :=
  ⟨if_pos h, if_pos h⟩

theorem toInt_div (h : ¬ Indivisible a b) : (a / b).toInt = a.toInt.tdiv b.toInt := by
  by_cases ha : a = Int64.minValue
  · exact Int64.toInt_div_of_ne_right a b fun hb => h (.inr ⟨ha, hb⟩)
  · exact Int64.toInt_div_of_ne_left a b ha

/-- Division goes toward zero, and the remainder is what it leaves. -/
theorem onInts_of_not_indivisible (h : ¬ Indivisible a b) :
    ∃ q r, div.onInts a b = .ok q ∧ rem.onInts a b = .ok r ∧ q.toInt * b.toInt + r.toInt = a.toInt ∧
      r.toInt.natAbs < b.toInt.natAbs ∧ (r.toInt = 0 ∨ r.toInt.sign = a.toInt.sign) := by
  have hb : b.toInt ≠ 0 := fun hzero => h (.inl (Int64.toInt_inj.mp hzero))
  have hmod : (a % b).toInt = a.toInt.tmod b.toInt := Int64.toInt_mod a b
  refine ⟨a / b, a % b, if_neg h, if_neg h, ?_, ?_, ?_⟩
  · rw [toInt_div h, hmod, Int.tdiv_mul_add_tmod]
  · rw [hmod, Int.natAbs_tmod]
    exact Nat.mod_lt _ (Int.natAbs_pos.mpr hb)
  · rw [hmod, Int.sign_tmod]
    by_cases hdvd : b.toInt ∣ a.toInt
    · exact .inl (Int.tmod_eq_zero_of_dvd hdvd)
    · exact .inr (if_neg hdvd)

end Arithmetic

namespace Expression

variable {lookup : String → Option Value} {l r : Expression} {a b : Int64}

theorem eval_ints (op : Arithmetic) (hl : l.eval lookup = .ok (.int a))
    (hr : r.eval lookup = .ok (.int b)) :
    (binary (.arithmetic op) l r).eval lookup = (op.onInts a b).map .int := by
  rw [eval, hl]
  change (r.eval lookup >>= fun w => op.apply (.int a) w) = _
  rw [hr]
  cases op <;> rfl

theorem eval_negate (hl : l.eval lookup = .ok (.int a)) :
    (unary .negate l).eval lookup = .ok (.int (-a)) := by
  rw [eval, hl]
  rfl

end Expression

/-- The sum as a whole number. -/
def wholeSum : List Int64 → Int
  | [] => 0
  | n :: ns => n.toInt + wholeSum ns

theorem wholeSum_append (ns ms : List Int64) : wholeSum (ns ++ ms) = wholeSum ns + wholeSum ms := by
  induction ns with
  | nil => exact (Int.zero_add _).symm
  | cons n ns ih => rw [List.cons_append, wholeSum, wholeSum, ih, Int.add_assoc]

theorem wholeSum_perm {ns ms : List Int64} (h : ns.Perm ms) : wholeSum ns = wholeSum ms := by
  induction h with
  | nil => rfl
  | cons n _ ih => rw [wholeSum, wholeSum, ih]
  | swap m n ns => simp only [wholeSum]; omega
  | trans _ _ ih ih' => exact ih.trans ih'

theorem foldl_wraps {x : Int} {n : Int64} (h : Wraps x n) (ns : List Int64) :
    Wraps (x + wholeSum ns) (ns.foldl (· + ·) n) := by
  induction ns generalizing x n with
  | nil => rwa [wholeSum, Int.add_zero]
  | cons m ns ih =>
    rw [wholeSum, ← Int.add_assoc, List.foldl_cons]
    exact ih (h.add (.self m))

theorem Qualifier.total_ints (ns : List Int64) :
    total (ns.map .int) = .int (ns.foldl (· + ·) 0) := by
  have hints : (ns.map Value.int).mapM int? = some ns := by
    induction ns with
    | nil => rfl
    | cons n ns ih => rw [List.map_cons, List.mapM_cons, ih]; rfl
  rw [total, hints]

/-- The total is what adding the items one after the other comes to. -/
theorem foldlM_eval_add (lookup : String → Option Value) (ns : List Int64) (n : Int64) :
    ns.foldlM (fun v m =>
      (Expression.binary (.arithmetic .add) (.literal v) (.literal (.int m))).eval lookup) (.int n) =
      .ok (.int (ns.foldl (· + ·) n)) := by
  induction ns generalizing n with
  | nil => rfl
  | cons m ns ih =>
    rw [List.foldlM_cons, Expression.eval_ints .add rfl rfl]
    exact ih (n + m)

/-- Sums, differences, products and negatives wrap around. Quotients and remainders are those of
whole numbers, rounded toward zero, and a division fails exactly if the divisor is zero or the
quotient is too large by one. The total of a list is the sum wrapped around, in whatever order and
portions it is taken. -/
theorem ints_wrap_around (lookup : String → Option Value) (name : String) :
    (∀ l r : Expression, ∀ a b : Int64,
      l.eval lookup = .ok (.int a) → r.eval lookup = .ok (.int b) →
      let result (op : Arithmetic) : Except EvalError Value :=
        (Expression.binary (.arithmetic op) l r).eval lookup
      (∃ n, result .add = .ok (.int n) ∧ Wraps (a.toInt + b.toInt) n) ∧
      (∃ n, result .sub = .ok (.int n) ∧ Wraps (a.toInt - b.toInt) n) ∧
      (∃ n, result .mul = .ok (.int n) ∧ Wraps (a.toInt * b.toInt) n) ∧
      (∃ n, (Expression.unary .negate l).eval lookup = .ok (.int n) ∧ Wraps (-a.toInt) n) ∧
      (Indivisible a b → result .div = .error .divisionByZero ∧
        result .rem = .error .divisionByZero) ∧
      (¬ Indivisible a b → ∃ q m, result .div = .ok (.int q) ∧ result .rem = .ok (.int m) ∧
        q.toInt * b.toInt + m.toInt = a.toInt ∧ m.toInt.natAbs < b.toInt.natAbs ∧
        (m.toInt = 0 ∨ m.toInt.sign = a.toInt.sign))) ∧
    ∀ ns : List Int64,
      let plus (v w : Value) : Except EvalError Value :=
        (Expression.binary (.arithmetic .add) (.literal v) (.literal w)).eval lookup
      let sum (ns : List Int64) : Value :=
        (Target.mk name (some "sum") .whole).shape (.list (ns.map .int))
      ns.foldlM (fun v n => plus v (.int n)) (.int 0) = .ok (sum ns) ∧
      (∃ n, sum ns = .int n ∧ Wraps (wholeSum ns) n) ∧
      (∀ ms, ms.Perm ns → sum ms = sum ns) ∧
      ∀ ms, plus (sum ns) (sum ms) = .ok (sum (ns ++ ms)) := by
  constructor
  · intro l r a b hl hr result
    have hresult (op : Arithmetic) : result op = (op.onInts a b).map .int :=
      Expression.eval_ints op hl hr
    refine ⟨⟨a + b, hresult .add, Int64.toInt_add a b⟩, ⟨a - b, hresult .sub, Int64.toInt_sub a b⟩,
      ⟨a * b, hresult .mul, Int64.toInt_mul a b⟩,
      ⟨-a, Expression.eval_negate hl, Int64.toInt_neg a⟩, ?_, ?_⟩
    · intro h
      obtain ⟨hdiv, hrem⟩ := Arithmetic.onInts_of_indivisible h
      rw [hresult, hresult, hdiv, hrem]
      exact ⟨rfl, rfl⟩
    · intro h
      obtain ⟨q, m, hdiv, hrem, hexact⟩ := Arithmetic.onInts_of_not_indivisible h
      refine ⟨q, m, ?_, ?_, hexact⟩
      · rw [hresult, hdiv]
        rfl
      · rw [hresult, hrem]
        rfl
  · intro ns plus sum
    have hsum (ns : List Int64) : sum ns = .int (ns.foldl (· + ·) 0) :=
      (Target.shape_qualified (q := .sum) (by decide +kernel) rfl name .whole).trans
        (Qualifier.total_ints ns)
    have hwraps (ns : List Int64) : Wraps (wholeSum ns) (ns.foldl (· + ·) 0) := by
      have h := foldl_wraps (.self 0) ns
      rwa [Int64.toInt_zero, Int.zero_add] at h
    refine ⟨?_, ⟨_, hsum ns, hwraps ns⟩, ?_, ?_⟩
    · rw [hsum]
      exact foldlM_eval_add lookup ns 0
    · intro ms hperm
      rw [hsum, hsum, (hwraps ms).unique (wholeSum_perm hperm ▸ hwraps ns)]
    · intro ms
      have happend := (hwraps ns).add (hwraps ms)
      rw [← wholeSum_append] at happend
      rw [hsum, hsum, hsum, ← happend.unique (hwraps (ns ++ ms))]
      exact Expression.eval_ints .add rfl rfl

/-- The least int is its own negative, but no quotient. -/
theorem least_int_is_no_quotient :
    let lookup : String → Option Value := fun _ => none
    let least : Expression := .literal (.int Int64.minValue)
    let minusOne : Expression := .unary .negate (.literal (.int 1))
    minusOne.eval lookup = .ok (.int (-1)) ∧
      (Expression.binary (.arithmetic .div) least minusOne).eval lookup = .error .divisionByZero ∧
      (∃ n, (Expression.binary (.arithmetic .mul) least minusOne).eval lookup = .ok (.int n) ∧
        Wraps 9223372036854775808 n ∧ n = Int64.minValue) := by
  intro lookup least minusOne
  obtain ⟨-, -, ⟨n, hmul, hn⟩, -, hfails, -⟩ :=
    (ints_wrap_around lookup "total").1 least minusOne Int64.minValue (-1) rfl rfl
  exact ⟨rfl, (hfails (.inr ⟨rfl, rfl⟩)).1, n, hmul, hn, hn.unique rfl⟩

end FeatureFlow

import Mathlib.Data.List.Forall2
import Mathlib.Data.List.Perm.Subperm
import SessionReplay.Proofs.Number.Shortest
import SessionReplay.Proofs.Schema.Options
import SessionReplay.Value.Equality

/-!
# Equality of plain data

For plain data the comparison of values decides an equality that is said without it: numbers of all
kinds are equal if they are the same exact quantity, lists place by place, and dictionaries if they
have the same keys with equal values. NaN is no quantity, so it is not even equal to itself.
-/

namespace SessionReplay

-- the steps in one are never counted out: no proof here needs their number
attribute [local irreducible] Double.unitsPerOne

inductive Quantity where
  | infinite (negative : Bool)
  /-- A number of steps of 2⁻¹⁰⁷⁴. -/
  | finite (steps : Int)
deriving DecidableEq

def Double.quantity? : Double → Option Quantity
  | .nan => none
  | .infinite negative => some (.infinite negative)
  | .finite negative magnitude =>
    some (.finite (if negative then -magnitude.units else magnitude.units))

namespace Value

/-- The quantity of a number; a truth value is one or zero. -/
def quantity? : Value → Option Quantity
  | .bool b => some (.finite ((if b then 1 else 0) * Double.unitsPerOne))
  | .int n => some (.finite (n * Double.unitsPerOne))
  | .float x => x.quantity?
  | _ => none

/-- Equality of plain data. -/
inductive Equal : Value → Value → Prop
  | null : Equal .null .null
  | text (t : Text) : Equal (.text t) (.text t)
  | number {a b : Value} {quantity : Quantity} : a.quantity? = some quantity →
      b.quantity? = some quantity → Equal a b
  | list {xs ys : List Value} : List.Forall₂ Equal xs ys → Equal (.list xs) (.list ys)
  | dict {xs ys : Options} : (∀ name, xs.lookup name = none ↔ ys.lookup name = none) →
      (∀ name a b, xs.lookup name = some a → ys.lookup name = some b → Equal a b) →
      Equal (.dict xs.toEntries) (.dict ys.toEntries)

/-- Plain data: what has parts is a list, or a dictionary with distinct texts as its keys. -/
inductive IsData : Value → Prop
  | null : IsData .null
  | bool (b : Bool) : IsData (.bool b)
  | int (n : Int) : IsData (.int n)
  | float (x : Double) : IsData (.float x)
  | text (t : Text) : IsData (.text t)
  | list {items : List Value} : (∀ item ∈ items, IsData item) → IsData (.list items)
  | dict {options : Options} : options.Distinct → (∀ option ∈ options, IsData option.2) →
      IsData (.dict options.toEntries)

end Value

/-! ### Numbers -/

namespace Double

/-- Doubles are the same number if they are the same quantity. -/
theorem sameNumber_iff {x y : Double} :
    x.sameNumber y = true ↔ ∃ q, x.quantity? = some q ∧ y.quantity? = some q := by
  cases x with
  | nan => simp [sameNumber, quantity?]
  | infinite a =>
    cases y with
    | infinite b =>
      simp only [sameNumber, quantity?, Option.some.injEq, exists_eq_left', Quantity.infinite.injEq,
        beq_iff_eq]
      exact eq_comm
    | nan => simp [sameNumber, quantity?]
    | finite b y =>
      refine iff_of_false Bool.false_ne_true ?_
      rintro ⟨q, hx, hy⟩
      exact Quantity.noConfusion (Option.some.inj (hx.trans hy.symm))
  | finite a x =>
    cases y with
    | finite b y =>
      simp only [sameNumber, quantity?, Option.some.injEq, exists_eq_left', Quantity.finite.injEq]
      generalize x.units = m
      generalize y.units = n
      cases a <;> cases b <;> simp <;> omega
    | _ => simp [sameNumber, quantity?]

theorem natCast_eq_mul_iff {units divisor : Nat} (h : 0 < divisor) {n : Int} :
    (units : Int) = n * divisor ↔ units % divisor = 0 ∧ ((units / divisor : Nat) : Int) = n := by
  constructor
  · intro hn
    have hdvd : (divisor : Int) ∣ units := ⟨n, by rw [hn, Int.mul_comm]⟩
    refine ⟨Nat.mod_eq_zero_of_dvd (Int.natCast_dvd_natCast.mp hdvd), ?_⟩
    rw [Int.natCast_ediv, hn, Int.mul_ediv_cancel _ (by omega)]
  · rintro ⟨hmod, rfl⟩
    exact_mod_cast (Nat.div_mul_cancel (Nat.dvd_of_mod_eq_zero hmod)).symm

theorem toInt?_eq_some_iff {x : Double} {n : Int} :
    x.toInt? = some n ↔ x.quantity? = some (.finite (n * unitsPerOne)) := by
  cases x with
  | nan | infinite => simp [toInt?, quantity?]
  | finite negative x =>
    simp only [toInt?, quantity?, Option.ite_none_right_eq_some, Option.some.injEq,
      Quantity.finite.injEq]
    cases negative with
    | true =>
      rw [if_pos rfl, if_pos rfl, Int.neg_eq_comm, @eq_comm _ (-n),
        ← natCast_eq_mul_iff unitsPerOne_pos, Int.neg_mul, Int.neg_eq_comm, eq_comm]
    | false => exact (natCast_eq_mul_iff unitsPerOne_pos).symm

end Double

namespace Value

theorem quantity?_of_asInt? {a : Value} {n : Int} (h : a.asInt? = some n) :
    a.quantity? = some (.finite (n * Double.unitsPerOne)) := by
  cases a with
  | bool b =>
    obtain rfl := Option.some.inj h
    cases b <;> simp [quantity?]
  | int m =>
    obtain rfl := Option.some.inj h
    rfl
  | _ => exact absurd h (by simp [asInt?])

theorem sameLeaf_float_iff (x : Double) (b : Value) :
    sameLeaf (.float x) b = true ↔ ∃ q, x.quantity? = some q ∧ b.quantity? = some q := by
  cases b with
  | float y => exact Double.sameNumber_iff
  | bool | int => simp [sameLeaf, asInt?, quantity?, Double.toInt?_eq_some_iff]
  | _ => simp [sameLeaf, asInt?, quantity?]

theorem sameLeaf_of_asInt? {a : Value} {n : Int} (h : a.asInt? = some n) (b : Value) :
    sameLeaf a b = true ↔ ∃ q, a.quantity? = some q ∧ b.quantity? = some q := by
  have hpos : (Double.unitsPerOne : Int) ≠ 0 := by
    exact_mod_cast Nat.ne_of_gt Double.unitsPerOne_pos
  rw [quantity?_of_asInt? h]
  cases a with
  | bool | int =>
    cases b with
    | float y => simp [sameLeaf, h, quantity?, Double.toInt?_eq_some_iff]
    | bool | int =>
      simp only [sameLeaf, quantity?, Option.isSome_some, Bool.true_and, beq_iff_eq, asInt?,
        Option.some.injEq, exists_eq_left', Quantity.finite.injEq, Int.mul_eq_mul_right_iff hpos]
      rw [← Option.some.inj h]
      exact eq_comm
    | _ => simp [sameLeaf, asInt?, quantity?]
  | _ => exact absurd h (by simp [asInt?])

/-! ### Equality -/

theorem equal_null_iff {b : Value} : Equal .null b ↔ b = .null := by
  constructor
  · rintro (_ | _ | ⟨h, -⟩)
    · rfl
    · exact absurd h (by simp [quantity?])
  · rintro rfl
    exact .null

theorem equal_text_iff {t : Text} {b : Value} : Equal (.text t) b ↔ b = .text t := by
  constructor
  · rintro (_ | _ | ⟨h, -⟩)
    · rfl
    · exact absurd h (by simp [quantity?])
  · rintro rfl
    exact .text t

theorem equal_list_iff {xs : List Value} {b : Value} :
    Equal (.list xs) b ↔ ∃ ys, b = .list ys ∧ List.Forall₂ Equal xs ys := by
  constructor
  · rintro (_ | _ | ⟨h, -⟩ | h)
    · exact absurd h (by simp [quantity?])
    · exact ⟨_, rfl, h⟩
  · rintro ⟨ys, rfl, h⟩
    exact .list h

theorem toEntries_injective : Function.Injective Options.toEntries :=
  List.map_injective_iff.mpr fun a b h => by
    obtain ⟨hkey, hvalue⟩ := Prod.mk.inj h
    exact Prod.ext (Value.text.inj hkey) hvalue

theorem isData_toValue_iff {options : Options} :
    options.toValue.IsData ↔ options.Distinct ∧ ∀ option ∈ options, option.2.IsData := by
  constructor
  · intro h
    generalize hvalue : options.toValue = value at h
    cases h with
    | dict hdistinct hdata =>
      obtain rfl := toEntries_injective (Value.dict.inj hvalue)
      exact ⟨hdistinct, hdata⟩
    | _ => exact Value.noConfusion hvalue
  · rintro ⟨hdistinct, hdata⟩
    exact .dict hdistinct hdata

theorem equal_dict_iff {xs : Options} {b : Value} :
    Equal (.dict xs.toEntries) b ↔ ∃ ys : Options, b = .dict ys.toEntries ∧
      (∀ name, xs.lookup name = none ↔ ys.lookup name = none) ∧
      ∀ name a b, xs.lookup name = some a → ys.lookup name = some b → Equal a b := by
  constructor
  · intro h
    generalize hxs : xs.toEntries = entries at h
    cases h with
    | number h => exact absurd h (by simp [quantity?])
    | @dict xs' ys hkeys hvalues =>
      obtain rfl := toEntries_injective hxs
      exact ⟨ys, rfl, hkeys, hvalues⟩
  · rintro ⟨ys, rfl, hkeys, hvalues⟩
    exact .dict hkeys hvalues

theorem equal_number_iff {a b : Value} (h : a.asInt?.isSome ∨ ∃ x, a = .float x) :
    Equal a b ↔ ∃ q, a.quantity? = some q ∧ b.quantity? = some q := by
  constructor
  · rintro (_ | _ | ⟨ha, hb⟩ | _ | _)
    · exact absurd h (by simp [asInt?])
    · exact absurd h (by simp [asInt?])
    · exact ⟨_, ha, hb⟩
    · exact absurd h (by simp [asInt?])
    · exact absurd h (by simp [asInt?])
  · rintro ⟨q, ha, hb⟩
    exact .number ha hb

theorem sameItems_iff {xs ys : List Value}
    (h : ∀ x ∈ xs, ∀ y ∈ ys, same x y = true ↔ Equal x y) :
    sameItems xs ys = true ↔ List.Forall₂ Equal xs ys := by
  induction xs generalizing ys with
  | nil => cases ys <;> simp [sameItems]
  | cons x rest ih =>
    cases ys with
    | nil => simp [sameItems]
    | cons y others =>
      have hrest := ih fun x hx y hy =>
        h x (List.mem_cons_of_mem _ hx) y (List.mem_cons_of_mem _ hy)
      rw [sameItems, Bool.and_eq_true, hrest, h x List.mem_cons_self y List.mem_cons_self,
        List.forall₂_cons]

theorem lookup_ne_none_iff {options : Options} (h : options.Distinct) {name : Text} :
    options.lookup name ≠ none ↔ name ∈ options.map Prod.fst := by
  constructor
  · intro hne
    by_contra hnot
    exact hne (lookup_of_not_mem hnot)
  · intro hmem
    obtain ⟨option, ho, rfl⟩ := List.mem_map.mp hmem
    rw [lookup_of_mem h ho]
    exact Option.some_ne_none _

theorem any_same_toEntries_iff {options : Options} (h : options.Distinct) {name : Text}
    {value : Value} :
    (options.toEntries.any fun other => same (.text name) other.1 && same value other.2) = true ↔
      ∃ found, options.lookup name = some found ∧ same value found = true := by
  rw [List.any_eq_true]
  constructor
  · rintro ⟨other, hother, hsame⟩
    obtain ⟨option, ho, rfl⟩ := List.mem_map.mp hother
    obtain ⟨hkey, hvalue⟩ := (Bool.and_eq_true _ _).mp hsame
    obtain rfl := Value.text.inj (same_text_iff.mp hkey)
    exact ⟨option.2, lookup_of_mem h ho, hvalue⟩
  · rintro ⟨found, hfound, hsame⟩
    exact ⟨_, List.mem_map_of_mem (mem_of_lookup hfound),
      (Bool.and_eq_true _ _).mpr ⟨same_text_iff.mpr rfl, hsame⟩⟩

theorem allEntriesAmong_iff {xs ys : Options} (h : ys.Distinct) :
    allEntriesAmong xs.toEntries ys.toEntries = true ↔
      ∀ option ∈ xs, ∃ found, ys.lookup option.1 = some found ∧ same option.2 found = true := by
  induction xs with
  | nil => simp [Options.toEntries, allEntriesAmong]
  | cons option rest ih =>
    unfold Options.toEntries at ih ⊢
    rw [List.map_cons, allEntriesAmong, Bool.and_eq_true, ih, List.forall_mem_cons]
    exact and_congr_left fun _ => any_same_toEntries_iff h

/-- Dictionaries of equal length have the same keys if one has all keys of the other. -/
theorem sameEntries_iff {xs ys : Options} (hxs : xs.Distinct) (hys : ys.Distinct)
    (h : ∀ x ∈ xs, ∀ y ∈ ys, same x.2 y.2 = true ↔ Equal x.2 y.2) :
    (xs.length = ys.length ∧
        ∀ option ∈ xs, ∃ found, ys.lookup option.1 = some found ∧ same option.2 found = true) ↔
      (∀ name, xs.lookup name = none ↔ ys.lookup name = none) ∧
        ∀ name a b, xs.lookup name = some a → ys.lookup name = some b → Equal a b := by
  have hkeys : (∀ name, xs.lookup name = none ↔ ys.lookup name = none) ↔
      ∀ name, name ∈ xs.map Prod.fst ↔ name ∈ ys.map Prod.fst := by
    refine forall_congr' fun name => ?_
    rw [← lookup_ne_none_iff hxs, ← lookup_ne_none_iff hys, not_iff_not]
  rw [hkeys]
  constructor
  · rintro ⟨hlength, hfound⟩
    have hsubset : xs.map Prod.fst ⊆ ys.map Prod.fst := by
      intro name hname
      obtain ⟨option, ho, rfl⟩ := List.mem_map.mp hname
      obtain ⟨found, hf, -⟩ := hfound option ho
      exact (lookup_ne_none_iff hys).mp (by rw [hf]; exact Option.some_ne_none _)
    have hperm : (xs.map Prod.fst).Perm (ys.map Prod.fst) :=
      (List.subperm_of_subset hxs hsubset).perm_of_length_le (by simp [hlength])
    refine ⟨fun name => hperm.mem_iff, fun name a b ha hb => ?_⟩
    obtain ⟨found, hf, hsame⟩ := hfound _ (mem_of_lookup ha)
    obtain rfl := Option.some.inj (hb.symm.trans hf)
    exact (h _ (mem_of_lookup ha) _ (mem_of_lookup hb)).mp hsame
  · rintro ⟨hkeys, hequal⟩
    have hperm : (xs.map Prod.fst).Perm (ys.map Prod.fst) :=
      (List.perm_ext_iff_of_nodup hxs hys).mpr hkeys
    refine ⟨by simpa using hperm.length_eq, fun option ho => ?_⟩
    obtain ⟨other, hother, hkey⟩ :=
      List.mem_map.mp ((hkeys option.1).mp (List.mem_map_of_mem ho))
    have hlookup := lookup_of_mem hys hother
    rw [hkey] at hlookup
    exact ⟨other.2, hlookup,
      (h _ ho _ hother).mpr (hequal _ _ _ (lookup_of_mem hxs ho) hlookup)⟩

/-- The comparison of plain data decides their equality. -/
theorem same_iff_equal {a b : Value} (ha : IsData a) (hb : IsData b) :
    same a b = true ↔ Equal a b := by
  induction ha generalizing b with
  | null =>
    rw [equal_null_iff]
    cases b <;> simp [same, sameLeaf, asInt?]
  | text t => rw [same_text_iff, equal_text_iff]
  | bool c =>
    have hsame : same (.bool c) b = sameLeaf (.bool c) b := by cases b <;> simp [same]
    rw [hsame, sameLeaf_of_asInt? rfl, equal_number_iff (.inl rfl)]
  | int n =>
    have hsame : same (.int n) b = sameLeaf (.int n) b := by cases b <;> simp [same]
    rw [hsame, sameLeaf_of_asInt? rfl, equal_number_iff (.inl rfl)]
  | float x =>
    have hsame : same (.float x) b = sameLeaf (.float x) b := by cases b <;> simp [same]
    rw [hsame, sameLeaf_float_iff, equal_number_iff (.inr ⟨x, rfl⟩)]
    rfl
  | @list xs _ ih =>
    rw [equal_list_iff]
    cases hb with
    | @list ys hys => simp [same, sameItems_iff fun x hx y hy => ih x hx (hys y hy)]
    | _ => simp [same, sameLeaf, asInt?]
  | @dict xs hxs _ ih =>
    rw [equal_dict_iff]
    cases hb with
    | @dict ys hys hdata =>
      have hparts := sameEntries_iff hxs hys fun x hx y hy => ih x hx (hdata y hy)
      have hlength : xs.toEntries.length = ys.toEntries.length ↔ xs.length = ys.length := by
        simp [Options.toEntries]
      rw [same, Bool.and_eq_true, beq_iff_eq, hlength, allEntriesAmong_iff hys, hparts]
      constructor
      · exact fun h => ⟨ys, rfl, h⟩
      · rintro ⟨others, hothers, h⟩
        obtain rfl := toEntries_injective (Value.dict.inj hothers)
        exact h
    | _ => simp [same, sameLeaf, asInt?]

end Value
end SessionReplay

import AipuCompass.Text
import Mathlib.Tactic.Ring

/-! `str(n)` of a non-negative int, which the modelled code puts into file names and log
messages: Lean's `toString` of a natural number, the decimal digits from the left with no
leading zero. It is never empty, it holds nothing but ASCII digits, and reading the digits back
gives `n`, so two numbers never print alike. -/
namespace AipuCompass
namespace Decimal

/-- The value of a run of decimal digits read from the left, after `n`. -/
def digitsValue (n : ℕ) (cs : PyStr) : ℕ := cs.foldl (fun n c => 10*n+(c.val-48)) n

lemma digitsValue_cons (n : ℕ) (c : CodePoint) (cs : PyStr) :
    digitsValue n (c :: cs) = digitsValue (10*n+(c.val-48)) cs := rfl

lemma digitsValue_start (n : ℕ) (cs : PyStr) : digitsValue n cs = n*10^cs.length + digitsValue 0 cs := by
  induction cs generalizing n with
  | nil => simp [digitsValue]
  | cons c cs ih =>
    rw [digitsValue_cons,digitsValue_cons,ih,ih (10*0+_),List.length_cons,Nat.pow_succ]
    ring

lemma digitChar_toNat {m : ℕ} (h : m < 10) : (Nat.digitChar m).toNat = 48 + m :=
  (show ∀ m : Fin 10, (Nat.digitChar m).toNat = 48 + m by decide) ⟨m,h⟩

lemma lit_mk_cons (c : Char) (cs : List Char) : lit ⟨c :: cs⟩ = ⟨c.toNat,char_toNat_lt c⟩ :: lit ⟨cs⟩ := rfl

lemma length_lit_mk (cs : List Char) : (lit ⟨cs⟩).length = cs.length := List.length_map _ _

lemma toString_nat (n : ℕ) : toString n = ⟨Nat.toDigitsCore 10 (n+1) n []⟩ := rfl

lemma toString_ofNat (m : ℕ) : toString (m : ℤ) = ⟨Nat.toDigitsCore 10 (m+1) m []⟩ := rfl

lemma toDigitsCore_succ (b f n : ℕ) (ds : List Char) : Nat.toDigitsCore b (f+1) n ds =
    if n/b = 0 then Nat.digitChar (n%b) :: ds else Nat.toDigitsCore b f (n/b) (Nat.digitChar (n%b) :: ds) := rfl

/-- The digit `toDigitsCore` writes for `n % 10` in front of `acc`. -/
lemma digitsValue_digit (n : ℕ) (acc : List Char) :
    digitsValue 0 (lit ⟨Nat.digitChar (n%10) :: acc⟩) = n%10*10^acc.length + digitsValue 0 (lit ⟨acc⟩) := by
  rw [lit_mk_cons,digitsValue_cons,digitsValue_start,length_lit_mk]
  simp only [Fin.val_mk,digitChar_toNat (Nat.mod_lt n (by decide)),Nat.mul_zero,Nat.zero_add,
    Nat.add_sub_cancel_left]

/-- The digits `toDigitsCore` puts in front of `acc`, with enough fuel, read as the number. -/
lemma digitsValue_toDigitsCore : ∀ (f n : ℕ) (acc : List Char), n < f →
    digitsValue 0 (lit ⟨Nat.toDigitsCore 10 f n acc⟩) = n*10^acc.length + digitsValue 0 (lit ⟨acc⟩)
  | 0,_,_,h => absurd h (Nat.not_lt_zero _)
  | f+1,n,acc,h => by
    rw [toDigitsCore_succ]
    split
    · rw [digitsValue_digit,Nat.mod_eq_of_lt (by omega : n < 10)]
    · rw [digitsValue_toDigitsCore f (n/10) _ (by omega),digitsValue_digit,List.length_cons,Nat.pow_succ]
      have h10 : n*10^acc.length = n/10*(10^acc.length*10) + n%10*10^acc.length := by
        calc n*10^acc.length = (10*(n/10)+n%10)*10^acc.length := by rw [Nat.div_add_mod]
          _ = _ := by ring
      rw [h10,Nat.add_assoc]

/-- `int(str(n)) == n`. -/
lemma digitsValue_toString (n : ℕ) : digitsValue 0 (lit (toString n)) = n := by
  simpa [toString_nat] using digitsValue_toDigitsCore (n+1) n [] (Nat.lt_succ_self n)

/-- Two numbers never print alike. -/
lemma toString_inj {i j : ℕ} (h : lit (toString i) = lit (toString j)) : i = j := by
  rw [← digitsValue_toString i,← digitsValue_toString j,h]

lemma mem_toDigitsCore : ∀ {f n : ℕ} {acc : List Char} {c : Char}, c ∈ Nat.toDigitsCore 10 f n acc →
    c ∈ acc ∨ 48 ≤ c.toNat ∧ c.toNat ≤ 57
  | 0,_,_,_,h => .inl h
  | f+1,n,acc,c,h => by
    have hd := digitChar_toNat (Nat.mod_lt n (show 10 > 0 by decide))
    have hn := Nat.mod_lt n (show 10 > 0 by decide)
    rw [toDigitsCore_succ] at h
    split at h
    · rcases List.mem_cons.mp h with rfl | h
      · exact .inr (by omega)
      · exact .inl h
    · rcases mem_toDigitsCore h with h | h
      · rcases List.mem_cons.mp h with rfl | h
        · exact .inr (by omega)
        · exact .inl h
      · exact .inr h

/-- `str(n)` holds nothing but ASCII digits. -/
lemma digit_of_mem_toString {n : ℕ} {c : CodePoint} (h : c ∈ lit (toString n)) : 48 ≤ c.val ∧ c.val ≤ 57 := by
  obtain ⟨x,hx,rfl⟩ := List.mem_map.mp h
  rcases mem_toDigitsCore hx with hx | hx
  · exact absurd hx (List.not_mem_nil _)
  · exact hx

lemma toDigitsCore_ne_nil {b : ℕ} (f : ℕ) : ∀ {n : ℕ} {ds : List Char}, Nat.toDigitsCore b (f+1) n ds ≠ [] := by
  induction f with
  | zero => intro n ds; rw [toDigitsCore_succ]; split <;> exact List.cons_ne_nil _ _
  | succ f ih => intro n ds; rw [toDigitsCore_succ]; split; simp; exact ih

/-- `str(d)` of an int is never empty. -/
lemma lit_toString_ne_nil {d : ℤ} (hd : 0 ≤ d) : lit (toString d) ≠ [] := by
  obtain ⟨m,rfl⟩ := Int.eq_ofNat_of_zero_le hd
  rw [toString_ofNat]
  exact fun h => toDigitsCore_ne_nil m (List.map_eq_nil_iff.mp h)

/-- A prefix without the separator `u` is read back up to the first `u`. -/
lemma append_sep_inj {u : CodePoint} : ∀ {a b r s : PyStr}, u ∉ a → u ∉ b → a ++ u :: r = b ++ u :: s →
    a = b ∧ r = s
  | [],[],_,_,_,_,h => ⟨rfl,(List.cons.inj h).2⟩
  | [],y :: b,_,_,_,hb,h => absurd ((List.cons.inj h).1 ▸ List.mem_cons_self y b) hb
  | x :: a,[],_,_,ha,_,h => absurd ((List.cons.inj h).1 ▸ List.mem_cons_self x a) ha
  | _ :: _,_ :: _,_,_,ha,hb,h =>
    have ⟨hxy,h'⟩ := List.cons.inj h
    have ⟨hab,hrs⟩ := append_sep_inj (fun hu => ha (List.mem_cons_of_mem _ hu))
      (fun hu => hb (List.mem_cons_of_mem _ hu)) h'
    ⟨hxy ▸ hab ▸ rfl,hrs⟩

/-- `str(i)` followed by a non-digit is read back: the number and what follows. -/
lemma toString_append_inj {i j : ℕ} {u : CodePoint} (hu : ¬(48 ≤ u.val ∧ u.val ≤ 57)) {r s : PyStr}
    (h : lit (toString i) ++ u :: r = lit (toString j) ++ u :: s) : i = j ∧ r = s := by
  have ⟨hij,hrs⟩ := append_sep_inj (fun hm => hu (digit_of_mem_toString hm))
    (fun hm => hu (digit_of_mem_toString hm)) h
  exact ⟨toString_inj hij,hrs⟩

end Decimal
end AipuCompass

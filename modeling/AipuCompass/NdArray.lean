import Mathlib.Data.List.Forall2

/-! The part of NumPy's `ndarray` that `rand` uses: a shape and its elements in row-major (C)
order, `np.full`, and item assignment `out[idx] = val` with a full index tuple. Item
assignment at two different valid indices touches two different elements, because the
row-major offset is injective on valid indices. -/
namespace AipuCompass

namespace NdArray

/-- The number of elements of an array of shape `shape`: the product of its dimensions. -/
def numel : List ℕ → ℕ
  | [] => 1
  | d :: ds => d * numel ds

end NdArray

/-- A C-contiguous array of integers, with as many elements as its shape gives. -/
structure NdArray where
  shape : List ℕ
  data : List ℤ
  size_eq : data.length = NdArray.numel shape

namespace NdArray

/-- `out.size`. -/
def size (a : NdArray) : ℕ := numel a.shape

/-- An index tuple with one entry below each dimension. -/
def IsIndex (shape idx : List ℕ) : Prop := List.Forall₂ (· < ·) idx shape

instance (shape idx : List ℕ) : Decidable (IsIndex shape idx) :=
  inferInstanceAs (Decidable (List.Forall₂ _ _ _))

/-- The position of the element at `idx` in row-major order. -/
def offset : List ℕ → List ℕ → ℕ
  | _ :: ds,i :: is => i * numel ds + offset ds is
  | _,_ => 0

/-- `np.full(shape, v)`. -/
def full (shape : List ℕ) (v : ℤ) : NdArray := ⟨shape,List.replicate (numel shape) v,List.length_replicate _ _⟩

/-- `a[idx] = v`. -/
def set (a : NdArray) (idx : List ℕ) (v : ℤ) : NdArray :=
  ⟨a.shape,a.data.set (offset a.shape idx) v,by rw [List.length_set,a.size_eq]⟩

/-- `a[idx]`. -/
def read (a : NdArray) (idx : List ℕ) : Option ℤ := a.data[offset a.shape idx]?

@[simp] lemma set_shape (a : NdArray) (idx : List ℕ) (v : ℤ) : (a.set idx v).shape = a.shape := rfl

@[simp] lemma full_shape (shape : List ℕ) (v : ℤ) : (full shape v).shape = shape := rfl

lemma offset_lt {shape idx : List ℕ} (h : IsIndex shape idx) : offset shape idx < numel shape := by
  induction h with
  | nil => exact Nat.one_pos
  | @cons i d is ds hi _ ih =>
    calc offset (d :: ds) (i :: is) = i * numel ds + offset ds is := rfl
      _ < (i+1) * numel ds := by rw [Nat.succ_mul]; omega
      _ ≤ numel (d :: ds) := Nat.mul_le_mul_right _ hi

/-- One row-major step is read back by division and remainder. -/
lemma mul_add_div_mod {q r P : ℕ} (h : r < P) : (q * P + r) / P = q ∧ (q * P + r) % P = r :=
  (Nat.div_mod_unique (by omega)).mpr ⟨by rw [Nat.mul_comm,Nat.add_comm],h⟩

lemma offset_injective {shape i j : List ℕ} (hi : IsIndex shape i) (hj : IsIndex shape j)
    (h : offset shape i = offset shape j) : i = j := by
  induction hi generalizing j with
  | nil => cases hj; rfl
  | @cons x d is ds _ his ih =>
    cases hj with
    | @cons y _ js _ _ hjs =>
      have hu := mul_add_div_mod (q := x) (offset_lt his)
      have hv := mul_add_div_mod (q := y) (offset_lt hjs)
      have h' : x * numel ds + offset ds is = y * numel ds + offset ds js := h
      rw [h'] at hu
      rw [hu.1.symm.trans hv.1,ih hjs (hu.2.symm.trans hv.2)]

lemma pos_of_numel_pos : ∀ {shape : List ℕ}, 0 < numel shape → ∀ d ∈ shape, 0 < d
  | [],_ => by simp
  | d :: ds,h => by
    obtain ⟨hd,hds⟩ := Nat.mul_ne_zero_iff.mp h.ne'
    rintro e (_ | ⟨_,he⟩)
    · exact Nat.pos_of_ne_zero hd
    · exact pos_of_numel_pos (Nat.pos_of_ne_zero hds) e he

lemma mem_full {shape : List ℕ} {v x : ℤ} (h : x ∈ (full shape v).data) : x = v :=
  List.eq_of_mem_replicate h

lemma mem_full_self {shape : List ℕ} (v : ℤ) (h : 0 < numel shape) : v ∈ (full shape v).data :=
  List.mem_replicate.mpr ⟨Nat.pos_iff_ne_zero.mp h,rfl⟩

lemma mem_set {a : NdArray} {idx : List ℕ} {v x : ℤ} (h : x ∈ (a.set idx v).data) : x ∈ a.data ∨ x = v :=
  List.mem_or_eq_of_mem_set h

lemma mem_of_read {a : NdArray} {idx : List ℕ} {v : ℤ} (h : a.read idx = some v) : v ∈ a.data :=
  List.getElem?_mem h

/-- After `a[idx] = v`, `a[idx]` is `v`. -/
lemma read_set_self {a : NdArray} {idx : List ℕ} (h : IsIndex a.shape idx) (v : ℤ) :
    (a.set idx v).read idx = some v :=
  List.getElem?_set_self (by rw [a.size_eq]; exact offset_lt h)

/-- `a[idx] = v` leaves the element at every other valid index as it was. -/
lemma read_set_ne {a : NdArray} {i j : List ℕ} (hi : IsIndex a.shape i) (hj : IsIndex a.shape j) (hne : i ≠ j)
    (v : ℤ) : (a.set i v).read j = a.read j :=
  List.getElem?_set_ne fun h => hne (offset_injective hi hj h)

example : (full [2,3] 0).set [1,2] 7 = ⟨[2,3],[0,0,0,0,0,7],rfl⟩ := rfl

end NdArray
end AipuCompass

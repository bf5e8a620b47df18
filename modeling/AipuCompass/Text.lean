import Mathlib.Data.List.Basic

/-! Python text and bytes as the modelled code handles them. A Python `str` holds code
points up to U+10FFFF, lone surrogates included, so it is a list of `CodePoint` rather
than a Lean `String`, which cannot hold a surrogate. A `bytes` value is a list of `Byte`. -/
namespace AipuCompass

/-- One element of a Python `str`. -/
abbrev CodePoint := Fin 0x110000

/-- One element of a Python `bytes`. -/
abbrev Byte := Fin 256

/-- A Python `str`. -/
abbrev PyStr := List CodePoint

/-- The byte of value `n % 256`. -/
def byte (n : ℕ) : Byte := ⟨n % 256,Nat.mod_lt _ (by decide)⟩

/-- The code point of value `n % 0x110000`. -/
def codePoint (n : ℕ) : CodePoint := ⟨n % 0x110000,Nat.mod_lt _ (by decide)⟩

@[simp] lemma byte_val (n : ℕ) : (byte n).val = n % 256 := rfl
@[simp] lemma codePoint_val (n : ℕ) : (codePoint n).val = n % 0x110000 := rfl

lemma char_toNat_lt (c : Char) : c.toNat < 0x110000 := by
  rcases c.valid with h | h <;> simp only [Char.toNat] <;> omega

/-- The code points of a Lean string: how the source's string literals are read. -/
def lit (s : String) : PyStr := s.toList.map fun c => ⟨c.toNat,char_toNat_lt c⟩

/-- Latin-1: byte `b` stands for code point `b`, as `unicode_escape` reads a plain byte. -/
def Byte.latin1 (b : Byte) : CodePoint := ⟨b.val,by omega⟩

@[simp] lemma Byte.latin1_val (b : Byte) : b.latin1.val = b.val := rfl

/-- The backslash, `'\\'`. -/
def backslash : CodePoint := 92

/-- A character that `unicode_escape` reads back as itself: ASCII and not a backslash. -/
def Plain (c : CodePoint) : Prop := c.val < 0x80 ∧ c ≠ backslash

instance (c : CodePoint) : Decidable (Plain c) := inferInstanceAs (Decidable (_ ∧ _))

end AipuCompass

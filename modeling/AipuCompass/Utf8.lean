import AipuCompass.Text

/-! Strict UTF-8, as CPython's `"utf-8"` codec reads and writes it with `errors="strict"`.
The decoder accepts exactly the well-formed sequences of Unicode's Table 3-7: no overlong
form, no surrogate, nothing above U+10FFFF; the encoder refuses a lone surrogate. What the
rest of the model needs is that decoding reads back what encoding wrote, followed by
whatever comes after it (`decode_encode_append`). -/
namespace AipuCompass
namespace Utf8

/-- A continuation byte, `%x80-BF`. -/
def IsCont (b : Byte) : Prop := 0x80 ≤ b.val ∧ b.val < 0xC0

instance (b : Byte) : Decidable (IsCont b) := inferInstanceAs (Decidable (_ ∧ _))

/-- The least second byte after lead byte `b`: `E0` rules out overlong three-byte forms and
`F0` overlong four-byte forms. -/
def secondLo (b : Byte) : ℕ := if b.val = 0xE0 then 0xA0 else if b.val = 0xF0 then 0x90 else 0x80

/-- The greatest second byte after lead byte `b`: `ED` rules out surrogates and `F4` code
points above U+10FFFF. -/
def secondHi (b : Byte) : ℕ := if b.val = 0xED then 0x9F else if b.val = 0xF4 then 0x8F else 0xBF

/-- The bytes of one code point, or `none` for a surrogate ("surrogates not allowed"). -/
def encodeChar (c : CodePoint) : Option (List Byte) :=
  let n := c.val
  if n < 0x80 then some [byte n]
  else if n < 0x800 then some [byte (0xC0+n/64),byte (0x80+n%64)]
  else if 0xD800 ≤ n ∧ n < 0xE000 then none
  else if n < 0x10000 then some [byte (0xE0+n/4096),byte (0x80+n/64%64),byte (0x80+n%64)]
  else some [byte (0xF0+n/262144),byte (0x80+n/4096%64),byte (0x80+n/64%64),byte (0x80+n%64)]

/-- `s.encode("utf-8")`; `none` where it raises `UnicodeEncodeError`. -/
def encode : PyStr → Option (List Byte)
  | [] => some []
  | c :: s => do
    let b ← encodeChar c
    let r ← encode s
    pure (b ++ r)

/-- Inside a multi-byte sequence: the continuation bytes still owed, the bits read so far,
and the range the next byte must lie in. -/
structure Partial where
  owed : ℕ
  acc : ℕ
  lo : ℕ
  hi : ℕ
  deriving DecidableEq, Repr

/-- A lead byte: a whole ASCII character, the start of a longer sequence, or a refusal. -/
def lead (b : Byte) : Option (CodePoint ⊕ Partial) :=
  if b.val < 0x80 then some (.inl b.latin1)
  else if 0xC2 ≤ b.val ∧ b.val < 0xE0 then some (.inr ⟨1,b.val-0xC0,0x80,0xBF⟩)
  else if 0xE0 ≤ b.val ∧ b.val < 0xF0 then some (.inr ⟨2,b.val-0xE0,secondLo b,secondHi b⟩)
  else if 0xF0 ≤ b.val ∧ b.val < 0xF5 then some (.inr ⟨3,b.val-0xF0,secondLo b,secondHi b⟩)
  else none

/-- The decoder, one byte at a time from state `st` (`none` between characters). -/
def decodeFrom : Option Partial → List Byte → Option PyStr
  | none,[] => some []
  | some _,[] => none
  | none,b :: rest =>
    match lead b with
    | some (.inl c) => (c :: ·) <$> decodeFrom none rest
    | some (.inr p) => decodeFrom (some p) rest
    | none => none
  | some p,b :: rest =>
    if p.lo ≤ b.val ∧ b.val ≤ p.hi then
      if p.owed = 1 then (codePoint (p.acc*64+(b.val-0x80)) :: ·) <$> decodeFrom none rest
      else decodeFrom (some ⟨p.owed-1,p.acc*64+(b.val-0x80),0x80,0xBF⟩) rest
    else none

/-- `b.decode("utf-8")`; `none` where it raises `UnicodeDecodeError`. -/
def decode (bs : List Byte) : Option PyStr := decodeFrom none bs

@[simp] lemma decode_nil : decode [] = some [] := rfl

example : decode [0xC3,0xA9] = some [0xE9] ∧ decode [0xED,0xA0,0x80] = none := by decide

/-! ### One step of the decoder -/

lemma lead_one {b : Byte} (hb : b.val < 0x80) : lead b = some (.inl b.latin1) := by
  simp [lead,hb]

lemma lead_two {b : Byte} (hb : 0xC2 ≤ b.val ∧ b.val < 0xE0) :
    lead b = some (.inr ⟨1,b.val-0xC0,0x80,0xBF⟩) := by
  rw [lead,if_neg (by omega),if_pos hb]

lemma lead_three {b : Byte} (hb : 0xE0 ≤ b.val ∧ b.val < 0xF0) :
    lead b = some (.inr ⟨2,b.val-0xE0,secondLo b,secondHi b⟩) := by
  rw [lead,if_neg (by omega),if_neg (by omega),if_pos hb]

lemma lead_four {b : Byte} (hb : 0xF0 ≤ b.val ∧ b.val < 0xF5) :
    lead b = some (.inr ⟨3,b.val-0xF0,secondLo b,secondHi b⟩) := by
  rw [lead,if_neg (by omega),if_neg (by omega),if_neg (by omega),if_pos hb]

lemma decodeFrom_inl {b : Byte} {c : CodePoint} (h : lead b = some (.inl c)) (rest : List Byte) :
    decodeFrom none (b :: rest) = (c :: ·) <$> decode rest := by
  rw [decodeFrom,h,decode]

lemma decodeFrom_inr {b : Byte} {p : Partial} (h : lead b = some (.inr p)) (rest : List Byte) :
    decodeFrom none (b :: rest) = decodeFrom (some p) rest := by
  rw [decodeFrom,h]

lemma decodeFrom_last {p : Partial} {b : Byte} (hb : p.lo ≤ b.val ∧ b.val ≤ p.hi) (ho : p.owed = 1)
    (rest : List Byte) :
    decodeFrom (some p) (b :: rest) = (codePoint (p.acc*64+(b.val-0x80)) :: ·) <$> decode rest := by
  rw [decodeFrom,if_pos hb,if_pos ho,decode]

lemma decodeFrom_more {p : Partial} {b : Byte} (hb : p.lo ≤ b.val ∧ b.val ≤ p.hi) (ho : p.owed ≠ 1)
    (rest : List Byte) :
    decodeFrom (some p) (b :: rest) =
      decodeFrom (some ⟨p.owed-1,p.acc*64+(b.val-0x80),0x80,0xBF⟩) rest := by
  rw [decodeFrom,if_pos hb,if_neg ho]

/-! ### The four forms of a character -/

lemma decode_one {b : Byte} (hb : b.val < 0x80) (rest : List Byte) :
    decode (b :: rest) = (b.latin1 :: ·) <$> decode rest :=
  decodeFrom_inl (lead_one hb) rest

lemma decode_two {b c : Byte} (hb : 0xC2 ≤ b.val ∧ b.val < 0xE0) (hc : IsCont c) (rest : List Byte) :
    decode (b :: c :: rest) =
      (codePoint ((b.val-0xC0)*64+(c.val-0x80)) :: ·) <$> decode rest := by
  rw [decode,decodeFrom_inr (lead_two hb)]
  refine decodeFrom_last ?_ rfl rest
  simp only [IsCont] at hc; dsimp only; omega

lemma decode_three {b c d : Byte} (hb : 0xE0 ≤ b.val ∧ b.val < 0xF0)
    (hc : secondLo b ≤ c.val ∧ c.val ≤ secondHi b) (hd : IsCont d) (rest : List Byte) :
    decode (b :: c :: d :: rest) =
      (codePoint (((b.val-0xE0)*64+(c.val-0x80))*64+(d.val-0x80)) :: ·) <$> decode rest := by
  rw [decode,decodeFrom_inr (lead_three hb),decodeFrom_more hc (by simp)]
  refine decodeFrom_last ?_ rfl rest
  simp only [IsCont] at hd; dsimp only; omega

lemma decode_four {b c d e : Byte} (hb : 0xF0 ≤ b.val ∧ b.val < 0xF5)
    (hc : secondLo b ≤ c.val ∧ c.val ≤ secondHi b) (hd : IsCont d) (he : IsCont e) (rest : List Byte) :
    decode (b :: c :: d :: e :: rest) =
      (codePoint ((((b.val-0xF0)*64+(c.val-0x80))*64+(d.val-0x80))*64+(e.val-0x80)) :: ·) <$>
        decode rest := by
  simp only [IsCont] at hd he
  rw [decode,decodeFrom_inr (lead_four hb),decodeFrom_more hc (by simp),
    decodeFrom_more (by dsimp only; omega) (by simp)]
  exact decodeFrom_last (by dsimp only; omega) rfl rest

lemma encodeChar_eq_one {c : CodePoint} {b : Byte} (h : c.val < 0x80) (hb : b.val = c.val) :
    encodeChar c = some [b] := by
  rw [encodeChar,if_pos h]
  simp only [Option.some.injEq,List.cons.injEq,Fin.ext_iff,byte_val,and_true]; omega

/-! ### Round trips -/

/-- The payload of a lead byte `k+m` is `m`. -/
lemma lead_payload {k m : ℕ} (h : k+m < 256) : (byte (k+m)).val - k = m := by
  rw [byte_val,Nat.mod_eq_of_lt h,Nat.add_sub_cancel_left]

/-- The payload of the continuation byte of `n` is its last six bits. -/
lemma cont_payload (n : ℕ) : (byte (0x80+n%64)).val - 0x80 = n % 64 := by
  rw [lead_payload (by omega)]

lemma isCont_byte (n : ℕ) : IsCont (byte (0x80+n%64)) := by
  simp only [IsCont,byte_val]; omega

lemma codePoint_of_val (c : CodePoint) : codePoint c.val = c :=
  Fin.ext (Nat.mod_eq_of_lt c.isLt)

/-- Decoding reads back the bytes of one encoded code point and goes on after them. -/
theorem decode_encodeChar_append {c : CodePoint} {bs : List Byte} (h : encodeChar c = some bs)
    (rest : List Byte) : decode (bs ++ rest) = (c :: ·) <$> decode rest := by
  have hc := c.isLt
  have hq2 : c.val / 4096 = c.val / 64 / 64 := (Nat.div_div_eq_div_mul _ 64 64).symm
  have hq3 : c.val / 262144 = c.val / 64 / 64 / 64 := by rw [hq2.symm,Nat.div_div_eq_div_mul]
  simp only [encodeChar] at h
  split_ifs at h with h1 h2 h3 h4 <;> cases h
  · have he : (byte c.val).latin1 = c := by ext; simp only [Byte.latin1_val,byte_val]; omega
    rw [List.singleton_append,decode_one (by simp only [byte_val]; omega),he]
  · rw [List.cons_append,List.singleton_append,
      decode_two (by simp only [byte_val]; omega) (isCont_byte _),lead_payload (by omega),
      cont_payload,Nat.div_add_mod',codePoint_of_val]
  · rw [List.cons_append,List.cons_append,List.singleton_append,
      decode_three (by simp only [byte_val]; omega)
        (by simp only [secondLo,secondHi,byte_val]; split_ifs <;> omega) (isCont_byte _),
      lead_payload (by omega),cont_payload,cont_payload,hq2,Nat.div_add_mod',Nat.div_add_mod',
      codePoint_of_val]
  · rw [List.cons_append,List.cons_append,List.cons_append,List.singleton_append,
      decode_four (by simp only [byte_val]; omega)
        (by simp only [secondLo,secondHi,byte_val]; split_ifs <;> omega) (isCont_byte _) (isCont_byte _),
      lead_payload (by omega),cont_payload,cont_payload,cont_payload,hq3,hq2,Nat.div_add_mod',
      Nat.div_add_mod',Nat.div_add_mod',codePoint_of_val]

lemma encode_cons_eq_some {c : CodePoint} {s : PyStr} {bs : List Byte} :
    encode (c :: s) = some bs ↔ ∃ b r, encodeChar c = some b ∧ encode s = some r ∧ bs = b ++ r := by
  simp only [encode,Option.bind_eq_bind,Option.bind_eq_some,Option.pure_def,Option.some_inj]
  constructor
  · rintro ⟨b,hb,r,hr,rfl⟩; exact ⟨b,r,hb,hr,rfl⟩
  · rintro ⟨b,r,hb,hr,rfl⟩; exact ⟨b,hb,r,hr,rfl⟩

/-- Decoding reads back an encoded string and goes on after it. -/
theorem decode_encode_append {s : PyStr} {bs : List Byte} (h : encode s = some bs)
    (rest : List Byte) : decode (bs ++ rest) = (s ++ ·) <$> decode rest := by
  induction s generalizing bs with
  | nil =>
    cases h
    simp
  | cons c s ih =>
    obtain ⟨b,r,hb,hr,rfl⟩ := encode_cons_eq_some.mp h
    rw [List.append_assoc,decode_encodeChar_append hb,ih hr]
    cases decode rest <;> rfl

/-- ASCII text encodes byte for byte. -/
theorem encode_of_ascii {s : PyStr} (h : ∀ c ∈ s, c.val < 0x80) : encode s = some (s.map fun c => byte c.val) := by
  induction s with
  | nil => rfl
  | cons c s ih =>
    have hc := h c (List.mem_cons_self _ _)
    rw [encode_cons_eq_some]
    exact ⟨_,_,encodeChar_eq_one hc (by simp only [byte_val]; omega),ih (fun x hx => h x (List.mem_cons_of_mem _ hx)),
      rfl⟩

end Utf8
end AipuCompass

import AipuCompass.Os

/-! CPython's `"unicode_escape"` codec, the decoder that `create_func_data` applies to the
pre-built IR text. A byte other than a backslash is read as the Latin-1 character of the same
value; a backslash starts one of Python's string-literal escapes. The decoder runs one byte
at a time, as a machine over `EscState`; with `errors="strict"` every malformed escape
raises `UnicodeDecodeError`, here `none`. `\N{name}` reads the Unicode name database, which
is a parameter. -/
namespace AipuCompass
namespace UnicodeEscape

/-- Where the decoder stands between bytes. -/
inductive EscState
  /-- Outside an escape. -/
  | normal
  /-- Right after a backslash. -/
  | escape
  /-- Inside `\ooo`, with the value and the number of digits read (one or two). -/
  | octal (value : ℕ) (digits : ℕ)
  /-- Inside `\xhh`, `\uhhhh` or `\Uhhhhhhhh`, with the digits still owed and the value. -/
  | hex (owed : ℕ) (value : ℕ)
  /-- Right after `\N`. -/
  | nameStart
  /-- Inside `\N{...}`, with the bytes of the name read so far. -/
  | name (acc : List Byte)
  deriving DecidableEq, Repr

/-- The value of an octal digit byte. -/
def octDigit (b : Byte) : Option ℕ := if 0x30 ≤ b.val ∧ b.val ≤ 0x37 then some (b.val-0x30) else none

/-- The value of a hexadecimal digit byte, either case. -/
def hexDigit (b : Byte) : Option ℕ :=
  if 0x30 ≤ b.val ∧ b.val ≤ 0x39 then some (b.val-0x30)
  else if 0x61 ≤ b.val ∧ b.val ≤ 0x66 then some (b.val-0x61+10)
  else if 0x41 ≤ b.val ∧ b.val ≤ 0x46 then some (b.val-0x41+10)
  else none

/-- A byte outside an escape. -/
def plain (b : Byte) : EscState × PyStr :=
  if b.val = 0x5C then (.escape,[]) else (.normal,[b.latin1])

/-- The byte after a backslash. -/
def escaped (b : Byte) : EscState × PyStr :=
  match b.val with
  | 0x0A => (.normal,[])
  | 0x5C => (.normal,[0x5C])
  | 0x27 => (.normal,[0x27])
  | 0x22 => (.normal,[0x22])
  | 0x62 => (.normal,[0x08])
  | 0x66 => (.normal,[0x0C])
  | 0x74 => (.normal,[0x09])
  | 0x6E => (.normal,[0x0A])
  | 0x72 => (.normal,[0x0D])
  | 0x76 => (.normal,[0x0B])
  | 0x61 => (.normal,[0x07])
  | 0x78 => (.hex 2 0,[])
  | 0x75 => (.hex 4 0,[])
  | 0x55 => (.hex 8 0,[])
  | 0x4E => (.nameStart,[])
  | _ => match octDigit b with
    | some d => (.octal d 1,[])
    | none => (.normal,[0x5C,b.latin1])

variable (lookup : List Byte → Option CodePoint)

/-- One byte: the next state and the characters it completes, or `none` for an error. -/
def step : EscState → Byte → Option (EscState × PyStr)
  | .normal,b => some (plain b)
  | .escape,b => some (escaped b)
  | .octal v k,b =>
    match octDigit b with
    | some d => if k = 2 then some (.normal,[codePoint (8*v+d)]) else some (.octal (8*v+d) (k+1),[])
    | none => some ((plain b).1,codePoint v :: (plain b).2)
  | .hex n v,b =>
    match hexDigit b with
    | some d =>
      if n = 1 then (if 16*v+d ≤ 0x10FFFF then some (.normal,[codePoint (16*v+d)]) else none)
      else some (.hex (n-1) (16*v+d),[])
    | none => none
  | .nameStart,b => if b.val = 0x7B then some (.name [],[]) else none
  | .name acc,b =>
    if b.val = 0x7D then
      if acc = [] then none else (fun c => (.normal,[c])) <$> lookup acc
    else some (.name (acc ++ [b]),[])

/-- The end of the input. -/
def finish : EscState → Option PyStr
  | .normal => some []
  | .octal v _ => some [codePoint v]
  | _ => none

/-- The decoder from state `st`. -/
def decodeFrom : EscState → List Byte → Option PyStr
  | st,[] => finish st
  | st,b :: bs =>
    match step lookup st b with
    | some (st',out) => (out ++ ·) <$> decodeFrom st' bs
    | none => none

/-- `bs.decode("unicode_escape")`. -/
def decode (bs : List Byte) : Option PyStr := decodeFrom lookup .normal bs

@[simp] lemma decode_nil : decode lookup [] = some [] := rfl

lemma decodeFrom_normal_cons {b : Byte} (hb : b.val ≠ 0x5C) (bs : List Byte) :
    decodeFrom lookup .normal (b :: bs) = (b.latin1 :: ·) <$> decodeFrom lookup .normal bs := by
  simp [decodeFrom,step,plain,hb]

/-- Bytes with no backslash decode to their Latin-1 characters, one for one, and the decoder
goes on after them. -/
theorem decode_append_of_no_backslash {bs : List Byte} (h : ∀ b ∈ bs, b.val ≠ 0x5C) (rest : List Byte) :
    decode lookup (bs ++ rest) = (bs.map Byte.latin1 ++ ·) <$> decode lookup rest := by
  induction bs with
  | nil => simp
  | cons b bs ih =>
    rw [List.cons_append,decode,decodeFrom_normal_cons lookup (h b (List.mem_cons_self _ _))]
    rw [decode] at ih
    rw [ih (fun x hx => h x (List.mem_cons_of_mem _ hx))]
    cases decode lookup rest <;> rfl

theorem decode_of_no_backslash {bs : List Byte} (h : ∀ b ∈ bs, b.val ≠ 0x5C) :
    decode lookup bs = some (bs.map Byte.latin1) := by
  simpa using decode_append_of_no_backslash lookup h []

/-- A backslash and `n` decode to a newline. -/
theorem decode_backslash_n (rest : List Byte) :
    decode lookup (0x5C :: 0x6E :: rest) = (lf :: ·) <$> decode lookup rest := by
  have h1 : step lookup .normal 0x5C = some (.escape,[]) := rfl
  have h2 : step lookup .escape 0x6E = some (.normal,[lf]) := rfl
  simp only [decode,decodeFrom,h1,h2]
  cases decodeFrom lookup .normal rest <;> rfl

example : decode (fun _ => none) [0x5C,0x6E,0x41,0x5C,0x31,0x30,0x31,0x5C,0x71] = some [10,65,65,92,113] := by
  decide

end UnicodeEscape
end AipuCompass

import AipuCompass.NdArray
import AipuCompass.Os

/-! `rand` of `tvm/aipu/utils.py` for an integer dtype: draw the whole array with
`np.random.randint(minv, maxv, shape, dtype)`, then, when there is room, write each corner value
at an index drawn again until it is not yet taken. NumPy's generator is a parameter that keeps
the range contracts of its two kinds of draws. The `while` loop of the redraws runs on fuel and
gives `none` once the fuel is spent. The `bool` and floating-point branches are not modelled. -/
namespace AipuCompass
namespace Rand
open NdArray

/-- An integer dtype of NumPy. -/
structure IntDType where
  bits : ℕ
  signed : Bool
  width : bits ∈ [8,16,32,64]

/-- `np.iinfo(dtype).min`. -/
def IntDType.min (dt : IntDType) : ℤ := if dt.signed then -Int.ofNat (Nat.pow 2 (dt.bits-1)) else 0

/-- `np.iinfo(dtype).max`. -/
def IntDType.max (dt : IntDType) : ℤ := if dt.signed then Int.ofNat (Nat.pow 2 (dt.bits-1)) - 1 else Int.ofNat (Nat.pow 2 dt.bits) - 1

/-- The dtype's name. -/
def IntDType.name (dt : IntDType) : PyStr := lit ((if dt.signed then "int" else "uint") ++ toString dt.bits)

def int8 : IntDType := ⟨8,true,by decide⟩

/-- The `shape` argument: an int or a tuple of ints. -/
inductive Shape
  | int (n : ℕ)
  | tuple (dims : List ℕ)
  deriving DecidableEq

/-- The shape of the array `rand` builds. -/
def Shape.dims : Shape → List ℕ
  | .int n => [n]
  | .tuple dims => dims

/-- What `rand` returns: a scalar when `shape == 1`, the array otherwise. -/
inductive Out
  | scalar (v : ℤ)
  | array (a : NdArray)

def Out.elements : Out → List ℤ
  | .scalar v => [v]
  | .array a => a.data

/-- NumPy, as far as `rand` uses it for an integer dtype. `draw lo hi n` gives the values of
`np.random.randint(lo, hi, n)` once NumPy's checks have passed, and `drawIndex shape` gives
`np.random.randint(shape)`; each draw lies in its range. `castInt dt v` is what storing the
Python int `v` in `dt` gives, as `out[idx] = v`, `np.full` and `np.int8(v)` do it: NumPy 2
raises `OverflowError` for a value the dtype cannot hold and NumPy 1 wraps it around; a value
the dtype holds is kept. -/
structure Rng (σ : Type) where
  draw : ℤ → ℤ → ℕ → σ → List ℤ × σ
  drawIndex : List ℕ → σ → List ℕ × σ
  castInt : IntDType → ℤ → Except PyExc ℤ
  draw_length : ∀ lo hi n s, (draw lo hi n s).1.length = n
  draw_mem : ∀ {lo hi n s x}, lo < hi → x ∈ (draw lo hi n s).1 → lo ≤ x ∧ x < hi
  drawIndex_isIndex : ∀ {shape} s, (∀ d ∈ shape, 0 < d) → IsIndex shape (drawIndex shape s).1
  castInt_of_mem : ∀ {dt v}, dt.min ≤ v → v ≤ dt.max → castInt dt v = .ok v

variable {σ : Type} (rng : Rng σ)

/-- `np.random.randint(low, high, shape, dtype)`: an empty array at once, else NumPy's bound
checks and then the draw. -/
def randint (dt : IntDType) (low high : ℤ) (shape : List ℕ) (s : σ) : Except PyExc (NdArray × σ) :=
  if h : numel shape = 0 then .ok (⟨shape,[],h.symm⟩,s)
  else if low < dt.min then .error (.valueError (lit "low is out of bounds for " ++ dt.name))
  else if dt.max < high-1 then .error (.valueError (lit "high is out of bounds for " ++ dt.name))
  else if high-1 < low then .error (.valueError (lit "low >= high"))
  else .ok (⟨shape,(rng.draw low high (numel shape) s).1,rng.draw_length _ _ _ _⟩,(rng.draw low high (numel shape) s).2)

/-- `minv` and `maxv`: the dtype's limits where a bound is omitted, and `high - 1`. -/
def bounds (dt : IntDType) (low high : Option ℤ) : ℤ × ℤ :=
  (match low with
    | none => dt.min
    | some low => low,
   match high with
    | none => dt.max
    | some high => high-1)

/-- `corner_values`. -/
def cornerValues (minv maxv : ℤ) : List ℤ := if minv < 0 ∧ 0 < maxv then [minv,0,maxv] else [minv,maxv]

/-- `idx = tuple(np.random.randint(out.shape))` and the loop `while idx in occupied_indices`
that draws it again, at most `fuel` times. -/
def drawFreeIndex (shape : List ℕ) (occupied : List (List ℕ)) : ℕ → σ → Option (List ℕ × σ)
  | fuel,s =>
    let d := rng.drawIndex shape s
    if d.1 ∈ occupied then
      match fuel with
      | 0 => none
      | fuel+1 => drawFreeIndex shape occupied fuel d.2
    else some d

/-- `for val in corner_values: ...; out[idx] = val; occupied_indices.append(idx)`, each redraw
loop with at most `fuel` redraws. -/
def placeCorners (dt : IntDType) (fuel : ℕ) :
    List (List ℕ) → List ℤ → NdArray → σ → Option (Except PyExc NdArray × σ)
  | _,[],out,s => some (.ok out,s)
  | occupied,val :: vals,out,s => do
    let (idx,s) ← drawFreeIndex rng out.shape occupied fuel s
    match rng.castInt dt val with
    | .ok v => placeCorners dt fuel (occupied ++ [idx]) vals (out.set idx v) s
    | .error e => pure (.error e,s)

/-- `out[0] if shape == 1 else out`. -/
def result (shape : Shape) (out : NdArray) : Out := if shape = .int 1 then .scalar (out.data.headD 0) else .array out

/-- `rand(shape, dtype, low, high, enable_corner_values)` for an integer dtype, from the
generator's state `s`, each redraw loop with at most `fuel` redraws. -/
def rand (dt : IntDType) (shape : Shape) (low high : Option ℤ) (enableCornerValues : Bool) (fuel : ℕ) (s : σ) :
    Option (Except PyExc Out × σ) :=
  let (minv,maxv) := bounds dt low high
  if minv = maxv then
    some (if shape = .int 1 then Out.scalar <$> rng.castInt dt minv
      else (fun v => Out.array (full shape.dims v)) <$> rng.castInt dt minv,s)
  else if ¬minv < maxv then some (.error (.assertionError []),s)
  else match randint rng dt minv maxv shape.dims s with
    | .error e => some (.error e,s)
    | .ok (out,s) =>
      let cornerValues := cornerValues minv maxv
      if enableCornerValues ∧ cornerValues.length < out.size then
        (fun (r,s) => (result shape <$> r,s)) <$> placeCorners rng dt fuel [] cornerValues out s
      else some (.ok (result shape out),s)

/-! ### The loops as the source runs them -/

/-- The redraw loop with no bound: from state `s` it settles on the index and state `r`, each
draw made from the state the one before left. -/
inductive Redraws (shape : List ℕ) (occupied : List (List ℕ)) : σ → List ℕ × σ → Prop
  | free {s : σ} : (rng.drawIndex shape s).1 ∉ occupied → Redraws shape occupied s (rng.drawIndex shape s)
  | taken {s : σ} {r : List ℕ × σ} : (rng.drawIndex shape s).1 ∈ occupied →
      Redraws shape occupied (rng.drawIndex shape s).2 r → Redraws shape occupied s r

/-- The `for` loop over the corner values with each redraw loop run to its end: it ends with
the array or with the exception of a value the dtype cannot hold, and the generator's state. -/
inductive Places (dt : IntDType) : List (List ℕ) → List ℤ → NdArray → σ → Except PyExc NdArray × σ → Prop
  | nil {occupied : List (List ℕ)} {out : NdArray} {s : σ} : Places dt occupied [] out s (.ok out,s)
  | store {occupied : List (List ℕ)} {val v : ℤ} {vals : List ℤ} {out : NdArray} {s s₁ : σ} {idx : List ℕ}
      {r : Except PyExc NdArray × σ} : Redraws rng out.shape occupied s (idx,s₁) → rng.castInt dt val = .ok v →
      Places dt (occupied ++ [idx]) vals (out.set idx v) s₁ r → Places dt occupied (val :: vals) out s r
  | overflow {occupied : List (List ℕ)} {val : ℤ} {vals : List ℤ} {out : NdArray} {s s₁ : σ} {idx : List ℕ}
      {e : PyExc} : Redraws rng out.shape occupied s (idx,s₁) → rng.castInt dt val = .error e →
      Places dt occupied (val :: vals) out s (.error e,s₁)

/-! ### The pieces -/

lemma bounds_eq (dt : IntDType) (low high : Option ℤ) :
    bounds dt low high = (low.getD dt.min,high.getD (dt.max+1) - 1) := by
  cases low <;> cases high <;> simp [bounds]

lemma cornerValues_mem {minv maxv c : ℤ} (h : minv ≤ maxv) (hc : c ∈ cornerValues minv maxv) :
    minv ≤ c ∧ c ≤ maxv := by
  unfold cornerValues at hc
  split_ifs at hc <;> simp only [List.mem_cons,List.mem_singleton,List.not_mem_nil,or_false] at hc <;> omega

lemma two_le_cornerValues_length (minv maxv : ℤ) : 2 ≤ (cornerValues minv maxv).length := by
  unfold cornerValues; split_ifs <;> simp

lemma randint_ok (dt : IntDType) {lo hi : ℤ} (shape : List ℕ) (s : σ) (hlo : dt.min ≤ lo) (hlt : lo < hi)
    (hhi : hi ≤ dt.max) :
    ∃ out s', randint rng dt lo hi shape s = .ok (out,s') ∧ out.shape = shape ∧ ∀ x ∈ out.data, lo ≤ x ∧ x < hi := by
  unfold randint
  by_cases h0 : numel shape = 0
  · exact ⟨_,_,dif_pos h0,rfl,by simp⟩
  · rw [dif_neg h0,if_neg (by omega),if_neg (by omega),if_neg (by omega)]
    exact ⟨_,_,rfl,rfl,fun x hx => rng.draw_mem hlt hx⟩

/-! ### The bounded loops against the unbounded ones -/

section Loops

variable {shape : List ℕ} {occupied : List (List ℕ)} {s : σ} {r : List ℕ × σ}

/-- Each index the redraw loop settles on is valid and not yet taken. -/
lemma redraws_spec (hpos : ∀ d ∈ shape, 0 < d) (h : Redraws rng shape occupied s r) :
    r.1 ∉ occupied ∧ IsIndex shape r.1 := by
  induction h with
  | free hf => exact ⟨hf,rng.drawIndex_isIndex _ hpos⟩
  | taken _ _ ih => exact ih

/-- A redraw loop that settles within `fuel` redraws is a run of the unbounded loop. -/
lemma redraws_of_drawFreeIndex {fuel : ℕ} (h : drawFreeIndex rng shape occupied fuel s = some r) :
    Redraws rng shape occupied s r := by
  induction fuel generalizing s with
  | zero =>
    rw [drawFreeIndex] at h
    split_ifs at h with hm
    cases h
    exact .free hm
  | succ n ih =>
    rw [drawFreeIndex] at h
    split_ifs at h with hm
    · exact .taken hm (ih h)
    · cases h
      exact .free hm

/-- A run of the unbounded loop is reached within some number of redraws. -/
lemma drawFreeIndex_of_redraws (h : Redraws rng shape occupied s r) :
    ∃ fuel, drawFreeIndex rng shape occupied fuel s = some r := by
  induction h with
  | free hf =>
    refine ⟨0,?_⟩
    rw [drawFreeIndex]
    exact if_neg hf
  | taken ht _ ih =>
    obtain ⟨fuel,hf⟩ := ih
    refine ⟨fuel+1,?_⟩
    rw [drawFreeIndex]
    exact (if_pos ht).trans hf

/-- A redraw loop that settles within `fuel` redraws settles on the same index with one more. -/
lemma drawFreeIndex_succ {fuel : ℕ} (h : drawFreeIndex rng shape occupied fuel s = some r) :
    drawFreeIndex rng shape occupied (fuel+1) s = some r := by
  induction fuel generalizing s with
  | zero =>
    unfold drawFreeIndex at h ⊢
    dsimp only at h ⊢
    split_ifs at h ⊢
    exact h
  | succ n ih =>
    unfold drawFreeIndex at h ⊢
    dsimp only at h ⊢
    split_ifs at h ⊢
    · exact ih h
    · exact h

lemma drawFreeIndex_mono {fuel fuel' : ℕ} (h : drawFreeIndex rng shape occupied fuel s = some r)
    (hle : fuel ≤ fuel') : drawFreeIndex rng shape occupied fuel' s = some r := by
  induction hle with
  | refl => exact h
  | step _ ih => exact drawFreeIndex_succ rng ih

end Loops

section Corners

variable {dt : IntDType} {fuel : ℕ} {occupied : List (List ℕ)} {vals : List ℤ} {out : NdArray} {s : σ}
  {r : Except PyExc NdArray × σ}

/-- One turn of the `for` loop: settle on a free index, then store the value there or raise. -/
lemma placeCorners_cons {val : ℤ} :
    placeCorners rng dt fuel occupied (val :: vals) out s = some r ↔
      ∃ idx s₁, drawFreeIndex rng out.shape occupied fuel s = some (idx,s₁) ∧
        ((∃ v, rng.castInt dt val = .ok v ∧
            placeCorners rng dt fuel (occupied ++ [idx]) vals (out.set idx v) s₁ = some r) ∨
          ∃ e, rng.castInt dt val = .error e ∧ r = (.error e,s₁)) := by
  cases hc : rng.castInt dt val <;> simp [placeCorners,hc,Option.bind_eq_some,eq_comm (b := r)]

lemma placeCorners_mono {fuel' : ℕ} (h : placeCorners rng dt fuel occupied vals out s = some r)
    (hle : fuel ≤ fuel') : placeCorners rng dt fuel' occupied vals out s = some r := by
  induction vals generalizing occupied out s with
  | nil => exact h
  | cons v vs ih =>
    obtain ⟨idx,s₁,hd,hr⟩ := (placeCorners_cons rng).mp h
    exact (placeCorners_cons rng).mpr
      ⟨idx,s₁,drawFreeIndex_mono rng hd hle,hr.imp_left fun ⟨w,hw,hp⟩ => ⟨w,hw,ih hp⟩⟩

lemma places_of_placeCorners (h : placeCorners rng dt fuel occupied vals out s = some r) :
    Places rng dt occupied vals out s r := by
  induction vals generalizing occupied out s with
  | nil =>
    cases h
    exact .nil
  | cons val vals ih =>
    obtain ⟨idx,s₁,hd,⟨v,hv,hp⟩ | ⟨e,he,rfl⟩⟩ := (placeCorners_cons rng).mp h
    · exact .store (redraws_of_drawFreeIndex rng hd) hv (ih hp)
    · exact .overflow (redraws_of_drawFreeIndex rng hd) he

lemma placeCorners_of_places (h : Places rng dt occupied vals out s r) :
    ∃ fuel, placeCorners rng dt fuel occupied vals out s = some r := by
  induction h with
  | nil => exact ⟨0,rfl⟩
  | store hr hv _ ih =>
    obtain ⟨f₁,h₁⟩ := drawFreeIndex_of_redraws rng hr
    obtain ⟨f₂,h₂⟩ := ih
    exact ⟨max f₁ f₂,(placeCorners_cons rng).mpr ⟨_,_,drawFreeIndex_mono rng h₁ (le_max_left _ _),
      .inl ⟨_,hv,placeCorners_mono rng h₂ (le_max_right _ _)⟩⟩⟩
  | overflow hr he =>
    obtain ⟨f₁,h₁⟩ := drawFreeIndex_of_redraws rng hr
    exact ⟨f₁,(placeCorners_cons rng).mpr ⟨_,_,h₁,.inr ⟨_,he,rfl⟩⟩⟩

/-- With values the dtype holds, in an array with no empty dimension, the `for` loop raises
nothing. It keeps the shape, writes only corner values, leaves every index taken before it as
it was, and every value it stores is in the array at the end: no write lands on an index taken
before it. -/
lemma places_spec (hpos : ∀ d ∈ out.shape, 0 < d) (hv : ∀ v ∈ vals, dt.min ≤ v ∧ v ≤ dt.max)
    (h : Places rng dt occupied vals out s r) :
    ∃ out' s', r = (.ok out',s') ∧ out'.shape = out.shape ∧ (∀ x ∈ out'.data, x ∈ out.data ∨ x ∈ vals) ∧
      (∀ i ∈ occupied, IsIndex out.shape i → out'.read i = out.read i) ∧ ∀ v ∈ vals, v ∈ out'.data := by
  induction h with
  | nil => exact ⟨_,_,rfl,rfl,fun x hx => .inl hx,fun _ _ _ => rfl,by simp⟩
  | @store occupied val v vals out s s₁ idx r hr hc _ ih =>
    have hval := hv val (List.mem_cons_self _ _)
    obtain rfl : val = v := by
      rw [rng.castInt_of_mem hval.1 hval.2] at hc
      exact Except.ok.inj hc
    obtain ⟨hfree,hidx⟩ := redraws_spec rng hpos hr
    obtain ⟨out',s',rfl,hsh,hd,hread,hmem⟩ := ih hpos fun x hx => hv x (List.mem_cons_of_mem _ hx)
    refine ⟨out',s',rfl,hsh,fun x hx => ?_,fun i hi hvi => ?_,?_⟩
    · rcases hd x hx with hx | hx
      · rcases mem_set hx with hx | rfl
        · exact .inl hx
        · exact .inr (List.mem_cons_self _ _)
      · exact .inr (List.mem_cons_of_mem _ hx)
    · rw [hread i (List.mem_append_left _ hi) hvi,read_set_ne hidx hvi fun he => hfree (he ▸ hi)]
    · rintro x (_ | ⟨_,hx⟩)
      · exact mem_of_read ((hread idx (List.mem_append_right _ (List.mem_singleton_self _)) hidx).trans
          (read_set_self hidx _))
      · exact hmem x hx
  | overflow _ hc =>
    have hval := hv _ (List.mem_cons_self _ _)
    rw [rng.castInt_of_mem hval.1 hval.2] at hc
    cases hc

end Corners

lemma result_elements {shape : Shape} {out : NdArray} (hs : out.shape = shape.dims) :
    ∀ x ∈ (result shape out).elements, x ∈ out.data := by
  unfold result
  split_ifs with h1
  · subst h1
    have hl : out.data.length = 1 := by rw [out.size_eq,hs]; rfl
    match hd : out.data, hl with
    | [a],_ => simp [Out.elements]
  · exact fun _ hx => hx

lemma result_of_one_lt {shape : Shape} {out : NdArray} (hs : out.shape = shape.dims) (h : 1 < out.size) :
    result shape out = .array out := by
  refine if_neg fun h1 => ?_
  subst h1
  rw [size,hs] at h
  exact absurd h (by decide)

/-! ### `rand` -/

section Run

variable {dt : IntDType} {shape : Shape} {low high : Option ℤ} {enableCornerValues : Bool} {s : σ} {minv maxv : ℤ}

/-- For bounds within the dtype, a call whose corner placement ends returns within some bound
on the redraws: `out[0] if shape == 1 else out` for an array `out` of the requested shape whose
elements lie in `[minv, maxv]`, and which holds every corner value when corner values are
enabled and there is room for them. -/
lemma rand_eq_result (hb : bounds dt low high = (minv,maxv)) (hlo : dt.min ≤ minv) (hle : minv ≤ maxv)
    (hhi : maxv ≤ dt.max)
    (hend : ∀ out s₁, randint rng dt minv maxv shape.dims s = .ok (out,s₁) → enableCornerValues = true →
      (cornerValues minv maxv).length < out.size → ∃ r, Places rng dt [] (cornerValues minv maxv) out s₁ r) :
    ∃ fuel out s', rand rng dt shape low high enableCornerValues fuel s = some (.ok (result shape out),s') ∧
      out.shape = shape.dims ∧ (∀ x ∈ out.data, minv ≤ x ∧ x ≤ maxv) ∧
      (enableCornerValues = true → (cornerValues minv maxv).length < numel shape.dims →
        ∀ c ∈ cornerValues minv maxv, c ∈ out.data) := by
  have hlen := two_le_cornerValues_length minv maxv
  by_cases heq : minv = maxv
  · subst heq
    refine ⟨0,full shape.dims minv,s,?_,rfl,fun x hx => by have := mem_full hx; omega,fun _ hl c hc => ?_⟩
    · rw [rand,hb]
      dsimp only
      rw [if_pos rfl,rng.castInt_of_mem hlo hhi,result]
      split_ifs with h1
      · subst h1; rfl
      · rfl
    · obtain rfl : c = minv := by have := cornerValues_mem (Int.le_refl _) hc; omega
      exact mem_full_self c (by omega)
  · have hlt : minv < maxv := by omega
    obtain ⟨out,s₁,hr,hsh,hd⟩ := randint_ok rng dt shape.dims s hlo hlt hhi
    have hrand : ∀ fuel, rand rng dt shape low high enableCornerValues fuel s =
        if enableCornerValues = true ∧ (cornerValues minv maxv).length < out.size then
          (fun (r,s) => (result shape <$> r,s)) <$> placeCorners rng dt fuel [] (cornerValues minv maxv) out s₁
        else some (.ok (result shape out),s₁) := fun fuel => by
      rw [rand,hb]
      dsimp only
      rw [if_neg heq,if_neg (not_not.mpr hlt),hr]
    by_cases hc : enableCornerValues = true ∧ (cornerValues minv maxv).length < out.size
    · obtain ⟨r,hp⟩ := hend out s₁ hr hc.1 hc.2
      have hpos := pos_of_numel_pos (show 0 < numel out.shape by rw [← size]; omega)
      obtain ⟨out',s₂,rfl,hsh',hd',-,hmem⟩ :=
        places_spec rng hpos (fun v hv => have := cornerValues_mem hle hv; ⟨by omega,by omega⟩) hp
      obtain ⟨fuel,hf⟩ := placeCorners_of_places rng hp
      refine ⟨fuel,out',s₂,by rw [hrand,if_pos hc,hf]; rfl,hsh'.trans hsh,fun x hx => ?_,fun _ _ => hmem⟩
      rcases hd' x hx with hx | hx
      · have := hd x hx; omega
      · exact cornerValues_mem hle hx
    · have hsize : out.size = numel shape.dims := by rw [size,hsh]
      exact ⟨0,out,s₁,by rw [hrand,if_neg hc],hsh,fun x hx => by have := hd x hx; omega,
        fun he hl => absurd ⟨he,hsize ▸ hl⟩ hc⟩

/-- The hypotheses on `low` and `high` put `minv` and `maxv` inside the dtype, in order. -/
lemma bounds_within (hlow : dt.min ≤ low.getD dt.min) (hlt : low.getD dt.min < high.getD (dt.max+1))
    (hhigh : high.getD (dt.max+1) ≤ dt.max+1) :
    dt.min ≤ (bounds dt low high).1 ∧ (bounds dt low high).1 ≤ (bounds dt low high).2 ∧
      (bounds dt low high).2 ≤ dt.max := by
  rw [bounds_eq]; dsimp only; omega

end Run

/-- For bounds within the dtype, a call of `rand` whose corner placement ends, each of its redraw
loops meeting a free index, returns within some bound on the redraws and raises nothing: every
element it gives lies in `[minv, maxv]`, and with corner values enabled and more elements than
corner values every corner value is among them. -/
theorem rand_elements (dt : IntDType) (shape : Shape) (low high : Option ℤ) (enableCornerValues : Bool) (s : σ)
    (hlow : dt.min ≤ low.getD dt.min) (hlt : low.getD dt.min < high.getD (dt.max+1))
    (hhigh : high.getD (dt.max+1) ≤ dt.max+1)
    (hend : ∀ out s₁, randint rng dt (bounds dt low high).1 (bounds dt low high).2 shape.dims s = .ok (out,s₁) →
      enableCornerValues = true → (cornerValues (bounds dt low high).1 (bounds dt low high).2).length < out.size →
      ∃ r, Places rng dt [] (cornerValues (bounds dt low high).1 (bounds dt low high).2) out s₁ r) :
    ∃ fuel out s', rand rng dt shape low high enableCornerValues fuel s = some (.ok out,s') ∧
      (∀ x ∈ out.elements, (bounds dt low high).1 ≤ x ∧ x ≤ (bounds dt low high).2) ∧
      (enableCornerValues = true →
        (cornerValues (bounds dt low high).1 (bounds dt low high).2).length < numel shape.dims →
        ∀ c ∈ cornerValues (bounds dt low high).1 (bounds dt low high).2, c ∈ out.elements) := by
  obtain ⟨hlo,hle,hhi⟩ := bounds_within hlow hlt hhigh
  obtain ⟨fuel,out,s',hr,hsh,hd,hc⟩ := rand_eq_result rng rfl hlo hle hhi hend
  refine ⟨fuel,_,s',hr,fun x hx => hd x (result_elements hsh x hx),fun he hl c hc' => ?_⟩
  have hlen := two_le_cornerValues_length (bounds dt low high).1 (bounds dt low high).2
  rw [result_of_one_lt hsh (by rw [size,hsh]; omega)]
  exact hc he hl c hc'

/-- How NumPy 2 stores a Python int in an integer dtype. -/
def numpy2CastInt (dt : IntDType) (v : ℤ) : Except PyExc ℤ :=
  if dt.min ≤ v ∧ v ≤ dt.max then .ok v
  else .error (.overflowError (lit "Python integer " ++ lit (toString v) ++ lit " out of bounds for " ++ dt.name))

/-- A generator that counts its draws: every value drawn is the lower bound, and the index drawn
from state `k` is `pick k` modulo each dimension. Ints are stored as NumPy 2 stores them. -/
def countingRng (pick : ℕ → ℕ) : Rng ℕ where
  draw lo _ n k := (List.replicate n lo,k+1)
  drawIndex shape k := (shape.map (pick k % ·),k+1)
  castInt := numpy2CastInt
  draw_length _ _ _ _ := List.length_replicate _ _
  draw_mem h hx := by rw [List.eq_of_mem_replicate hx]; exact ⟨Int.le_refl _,h⟩
  drawIndex_isIndex k h := by
    induction ‹List ℕ› with
    | nil => exact List.Forall₂.nil
    | cons d ds ih =>
      exact List.Forall₂.cons (Nat.mod_lt _ (h d (List.mem_cons_self _ _)))
        (ih fun e he => h e (List.mem_cons_of_mem _ he))
  castInt_of_mem h1 h2 := if_pos ⟨h1,h2⟩

/-- Draws the index `k` from state `k`, so that no two index draws in a row collide. -/
def counterRng : Rng ℕ := countingRng id

/-- Draws the index `k / 2` from state `k`: each index comes twice in a row, so the corner
value drawn right after another one meets its index and is drawn again. -/
def pairRng : Rng ℕ := countingRng (· / 2)

/-- With `counterRng`, `rand((4,), "int8")` draws `[-128, -128, -128, -128]` and then puts the
corner values `-128`, `0` and `127` at the indices `1`, `2` and `3`. -/
example : rand counterRng int8 (.tuple [4]) none none true 0 0 =
    some (.ok (.array ⟨[4],[-128,-128,0,127],rfl⟩),4) := rfl

/-- NumPy 2 refuses `rand(4, "int8", 0, 129)`: the corner value 128 does not fit in `int8`. -/
example : rand counterRng int8 (.int 4) (some 0) (some 129) true 0 0 =
    some (.error (.overflowError (lit "Python integer 128 out of bounds for int8")),3) := rfl

/-- With `pairRng`, the third corner value of `rand((4,), "int8")` meets the index of the second
and is drawn again: no bound on the redraws gives `none`, one gives the array, and the theorem's
loop hypothesis holds. -/
theorem rand_elements_pairRng :
    rand pairRng int8 (.tuple [4]) none none true 0 0 = none ∧
    rand pairRng int8 (.tuple [4]) none none true 1 0 = some (.ok (.array ⟨[4],[-128,0,127,-128],rfl⟩),5) ∧
    ∃ fuel out s', rand pairRng int8 (.tuple [4]) none none true fuel 0 = some (.ok out,s') ∧
      (∀ x ∈ out.elements, (bounds int8 none none).1 ≤ x ∧ x ≤ (bounds int8 none none).2) ∧
      (true = true → (cornerValues (bounds int8 none none).1 (bounds int8 none none).2).length <
          numel (Shape.tuple [4]).dims →
        ∀ c ∈ cornerValues (bounds int8 none none).1 (bounds int8 none none).2, c ∈ out.elements) :=
  ⟨rfl,rfl,rand_elements pairRng int8 (.tuple [4]) none none true 0 (by decide) (by decide) (by decide)
    fun _ _ h _ _ => by
      cases h
      exact ⟨_,places_of_placeCorners pairRng (show placeCorners pairRng int8 1 [] _ _ _ = some _ from rfl)⟩⟩

end Rand
end AipuCompass

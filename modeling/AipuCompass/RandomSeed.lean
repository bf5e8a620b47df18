import AipuCompass.Rand
import AipuCompass.RpcSession
import AipuCompass.Decimal

/-! The first lines of `rand` in `tvm/aipu/utils.py`, which seed NumPy's global generator once
per process: the first call sets the module global `_RANDOM_SEED` from `AIPU_TVM_RANDOM_SEED`,
or from a draw of `np.random.randint(0, 2**31)` where that variable is unset or empty, seeds the
generator with `int(_RANDOM_SEED)` and logs the seed. Every later call finds `_RANDOM_SEED` set
and draws on from the generator. A process is modelled by `_RANDOM_SEED`, the generator's state
and the log, and a run of it by the calls it makes one after another, for integer dtypes.
With the variable set, a run is NumPy's stream from that seed whatever the generator held
before; with it unset, the logged seed reproduces the run; a value that `int()` or
`np.random.seed` rejects makes the first call raise and leaves every later call unseeded. -/
namespace AipuCompass
namespace Rand
open RpcSession Decimal

/-- The state one call of `rand` hands to the next: `_RANDOM_SEED`, NumPy's global generator
and the messages logged with `INFO`. -/
structure Proc (σ : Type) where
  randomSeed : PyVal
  gen : σ
  logs : List PyStr

/-- The arguments of one call `rand(shape, dtype, low, high, enable_corner_values)`. -/
structure Call where
  dt : IntDType
  shape : Shape
  low : Option ℤ
  high : Option ℤ
  enableCornerValues : Bool

variable {σ : Type} (rng : Rng σ) (B : Builtins) (seedState : ℕ → σ)

/-- The call itself, from line 262 on, made from generator state `s`. -/
def Call.run (c : Call) (fuel : ℕ) (s : σ) : Option (Except PyExc Out × σ) :=
  rand rng c.dt c.shape c.low c.high c.enableCornerValues fuel s

/-- `np.random.randint(0, 2**31)`: one draw, as an int. -/
def drawSeed (s : σ) : PyVal × σ :=
  (.int ((rng.draw 0 2147483648 1 s).1.headD 0),(rng.draw 0 2147483648 1 s).2)

/-- `np.random.seed(n)` for an int `n`: NumPy's range check, then the generator seeded with `n`;
`seedState` is what seeding gives. -/
def npSeed (n : ℤ) : Except PyExc σ :=
  if 0 ≤ n ∧ n < 4294967296 then .ok (seedState n.toNat)
  else .error (.valueError (lit "Seed must be between 0 and 2**32 - 1"))

/-- `INFO(f'The NumPy random seed is "{_RANDOM_SEED}".')`. -/
def seedMessage (seed : PyVal) : PyStr := lit "The NumPy random seed is \"" ++ seed.toStr ++ lit "\"."

/-- Lines 256-260, with `env` the value of `os.getenv("AIPU_TVM_RANDOM_SEED")`. `_RANDOM_SEED`
is assigned before `int()` and `np.random.seed` run, so it stays set when either raises. -/
def seedOnce (env : PyVal) (p : Proc σ) : Except PyExc Unit × Proc σ :=
  if p.randomSeed = .none then
    let (seed,gen) := if env.truthy then (env,p.gen) else drawSeed rng p.gen
    match B.int seed >>= npSeed seedState with
    | .ok g => (.ok (),⟨seed,g,p.logs ++ [seedMessage seed]⟩)
    | .error e => (.error e,⟨seed,gen,p.logs⟩)
  else (.ok (),p)

/-- One call of `rand` in process state `p`, `AIPU_TVM_RANDOM_SEED` being `env` at the time. -/
def randCall (env : PyVal) (c : Call) (fuel : ℕ) (p : Proc σ) : Option (Except PyExc Out × Proc σ) :=
  match seedOnce rng B seedState env p with
  | (.error e,p) => some (.error e,p)
  | (.ok (),p) => (fun r => (r.1,{ p with gen := r.2 })) <$> c.run rng fuel p.gen

/-- The calls a process makes one after another, each with the value the environment variable
has at its time, and what each returns or raises. -/
def randRun (fuel : ℕ) : List (PyVal × Call) → Proc σ → Option (List (Except PyExc Out) × Proc σ)
  | [],p => some ([],p)
  | (env,c) :: cs,p => do
    let (r,p) ← randCall rng B seedState env c fuel p
    let (rs,p) ← randRun fuel cs p
    pure (r :: rs,p)

/-- The reference the runs are compared with: the same calls made on NumPy's generator alone,
with no seeding lines. -/
def genRun (fuel : ℕ) : List Call → σ → Option (List (Except PyExc Out) × σ)
  | [],s => some ([],s)
  | c :: cs,s => do
    let (r,s) ← c.run rng fuel s
    let (rs,s) ← genRun fuel cs s
    pure (r :: rs,s)

/-! ### One call -/

variable {rng B seedState} {fuel : ℕ} {env : PyVal} {c : Call} {cs : List (PyVal × Call)}

/-- The seed drawn where the variable is unset is an int in `[0, 2**31)`. -/
lemma drawSeed_range (s : σ) : ∃ d, (drawSeed rng s).1 = .int d ∧ 0 ≤ d ∧ d < 2147483648 := by
  obtain ⟨x,hx⟩ : ∃ x, (rng.draw 0 2147483648 1 s).1 = [x] :=
    List.length_eq_one.mp (rng.draw_length _ _ _ _)
  have := rng.draw_mem (by decide) (hx ▸ List.mem_singleton_self x)
  exact ⟨x,by rw [drawSeed,hx]; rfl,this⟩

/-- Such a seed passes `int()` and `np.random.seed`. -/
lemma seed_of_int {d : ℤ} (hd : 0 ≤ d ∧ d < 2147483648) :
    (B.int (.int d) >>= npSeed seedState) = .ok (seedState d.toNat) := by
  rw [B.int_int]
  exact if_pos ⟨hd.1,by omega⟩

lemma seedOnce_of_seeded {p : Proc σ} (h : p.randomSeed ≠ .none) :
    seedOnce rng B seedState env p = (.ok (),p) :=
  if_neg h

lemma randCall_of_seeded {p : Proc σ} (h : p.randomSeed ≠ .none) :
    randCall rng B seedState env c fuel p = (fun r => (r.1,{ p with gen := r.2 })) <$> c.run rng fuel p.gen := by
  rw [randCall,seedOnce_of_seeded h]

/-- A call whose seeding lines leave a set `_RANDOM_SEED` behind is the call from that state. -/
lemma randCall_eq_of_seedOnce {p p₁ : Proc σ} (hs : seedOnce rng B seedState env p = (.ok (),p₁))
    (h : p₁.randomSeed ≠ .none) : randCall rng B seedState env c fuel p = randCall rng B seedState env c fuel p₁ := by
  rw [randCall,hs,randCall_of_seeded h]

/-! ### Runs -/

lemma randRun_cons_congr {p p₁ : Proc σ}
    (h : randCall rng B seedState env c fuel p = randCall rng B seedState env c fuel p₁) :
    randRun rng B seedState fuel ((env,c) :: cs) p = randRun rng B seedState fuel ((env,c) :: cs) p₁ := by
  simp only [randRun,h]

/-- Once `_RANDOM_SEED` is set, no call seeds, logs or changes it again: the run is the calls
made on the generator from where it stands. -/
lemma randRun_of_seeded (cs : List (PyVal × Call)) {p : Proc σ} (h : p.randomSeed ≠ .none) :
    randRun rng B seedState fuel cs p =
      (fun r => (r.1,{ p with gen := r.2 })) <$> genRun rng fuel (cs.map Prod.snd) p.gen := by
  induction cs generalizing p with
  | nil => rfl
  | cons ec cs ih =>
    obtain ⟨env,c⟩ := ec
    simp only [randRun,genRun,List.map_cons,randCall_of_seeded h]
    cases hr : c.run rng fuel p.gen with
    | none => rfl
    | some r =>
      obtain ⟨r,g₁⟩ := r
      have ih₁ := @ih { p with gen := g₁ } h
      simp only [Option.map_eq_map,Option.map_some',Option.bind_eq_bind,Option.some_bind,ih₁]
      cases genRun rng fuel (cs.map Prod.snd) g₁ <;> rfl

/-- A first call whose seeding succeeds starts the generator from the seeded state. -/
lemma randRun_of_seedOnce {p p₁ : Proc σ} (hs : seedOnce rng B seedState env p = (.ok (),p₁))
    (h : p₁.randomSeed ≠ .none) :
    randRun rng B seedState fuel ((env,c) :: cs) p =
      (fun r => (r.1,{ p₁ with gen := r.2 })) <$> genRun rng fuel (c :: cs.map Prod.snd) p₁.gen := by
  rw [randRun_cons_congr (randCall_eq_of_seedOnce hs h),randRun_of_seeded _ h]
  rfl

/-- With `AIPU_TVM_RANDOM_SEED` set to a value that `int()` and `np.random.seed` accept, a fresh
process logs that seed once and makes every sequence of calls exactly as NumPy's generator
seeded with it would, whatever state the generator was in before. -/
theorem randRun_env_seed (env : PyVal) (hset : env.truthy) {g₀ : σ}
    (hseed : (B.int env >>= npSeed seedState) = .ok g₀) (c : Call) (cs : List (PyVal × Call)) (g : σ)
    (logs : List PyStr) :
    randRun rng B seedState fuel ((env,c) :: cs) ⟨.none,g,logs⟩ =
      (fun r => (r.1,⟨env,r.2,logs ++ [seedMessage env]⟩)) <$> genRun rng fuel (c :: cs.map Prod.snd) g₀ := by
  have hne : env ≠ .none := by rintro rfl; exact absurd hset (by decide)
  have hs : seedOnce rng B seedState env ⟨.none,g,logs⟩ = (.ok (),⟨env,g₀,logs ++ [seedMessage env]⟩) := by
    simp only [seedOnce,if_pos hset,hseed,if_true]
  rw [randRun_of_seedOnce hs hne]

/-- With `AIPU_TVM_RANDOM_SEED` unset or empty, a fresh process draws its seed from
`[0, 2**31)` and logs it, and a fresh process with the variable set to the logged number makes
the same calls with the same results and logs the same message, whatever its generator held. -/
theorem randRun_logged_seed (env : PyVal) (hunset : env.truthy = false) (c : Call)
    (cs : List (PyVal × Call)) (g : σ) {rs : List (Except PyExc Out)} {p : Proc σ}
    (h : randRun rng B seedState fuel ((env,c) :: cs) ⟨.none,g,[]⟩ = some (rs,p)) :
    ∃ d : ℤ, 0 ≤ d ∧ d < 2147483648 ∧ p.logs = [seedMessage (.int d)] ∧
      ∀ g' : σ, B.int (.str (lit (toString d))) = .ok d →
        randRun rng B seedState fuel ((.str (lit (toString d)),c) :: cs) ⟨.none,g',[]⟩ =
          some (rs,⟨.str (lit (toString d)),p.gen,p.logs⟩) := by
  obtain ⟨d,hd,hrange⟩ := @drawSeed_range _ rng g
  have hs : seedOnce rng B seedState env ⟨.none,g,[]⟩ =
      (.ok (),⟨.int d,seedState d.toNat,[seedMessage (.int d)]⟩) := by
    simp only [seedOnce,if_pos,hunset,Bool.false_eq_true,if_false]
    rw [hd,seed_of_int hrange]
    rfl
  rw [randRun_of_seedOnce hs (by simp)] at h
  obtain ⟨⟨rs',g₁⟩,hg,he⟩ := Option.map_eq_some'.mp h
  obtain ⟨rfl,rfl⟩ := Prod.mk.inj he
  refine ⟨d,hrange.1,hrange.2,rfl,fun g' hint => ?_⟩
  have hset : (PyVal.str (lit (toString d))).truthy := by
    simp only [PyVal.truthy,List.isEmpty_eq_false.mpr (lit_toString_ne_nil hrange.1),Bool.not_false]
  have hseed : (B.int (.str (lit (toString d))) >>= npSeed seedState) = .ok (seedState d.toNat) := by
    rw [hint]; exact if_pos ⟨hrange.1,by omega⟩
  dsimp only at hg
  rw [randRun_env_seed _ hset hseed,hg]
  rfl

/-- When `int()` or `np.random.seed` rejects `AIPU_TVM_RANDOM_SEED`, the first call of a fresh
process raises that exception after `_RANDOM_SEED` is set, so no later call seeds: they all
draw from the generator as it was when the process started, and no seed is logged. -/
theorem randRun_rejected_seed (env : PyVal) (hset : env.truthy) {e : PyExc}
    (hrej : (B.int env >>= npSeed seedState) = .error e) (c : Call) (cs : List (PyVal × Call)) (g : σ)
    (logs : List PyStr) :
    randRun rng B seedState fuel ((env,c) :: cs) ⟨.none,g,logs⟩ =
      (fun r => (.error e :: r.1,⟨env,r.2,logs⟩)) <$> genRun rng fuel (cs.map Prod.snd) g := by
  have hne : env ≠ .none := by rintro rfl; exact absurd hset (by decide)
  have hs : randCall rng B seedState env c fuel ⟨.none,g,logs⟩ = some (.error e,⟨env,g,logs⟩) := by
    simp only [randCall,seedOnce,if_pos hset,hrej,if_true]
  simp only [randRun,hs,Option.bind_eq_bind,Option.some_bind,randRun_of_seeded cs (p := ⟨env,g,logs⟩) hne]
  cases genRun rng fuel (cs.map Prod.snd) g <;> rfl

/-- `int()` on ints and on non-empty strings of ASCII digits, read in base ten. -/
def decimalBuiltins : Builtins where
  int v := match v with
    | .int n => .ok n
    | .str s =>
      if s ≠ [] ∧ s.all (fun c => 48 ≤ c.val ∧ c.val ≤ 57) then .ok (s.foldl (fun n c => 10*n+(c.val-48 : ℕ)) 0)
      else .error (.valueError (lit "invalid literal for int() with base 10"))
    | .none => .error (.valueError [])
  repr s := s
  isSpace c := c = 32
  int_int _ := rfl

/-- `rand((4,), "int8")`. -/
def sampleCall : Call := ⟨int8,.tuple [4],none,none,true⟩

theorem randRun_env_seed_seven :
    (PyVal.str (lit "7")).truthy ∧ (decimalBuiltins.int (.str (lit "7")) >>= npSeed id) = .ok 7 ∧
    randRun counterRng decimalBuiltins id 0 [(.str (lit "7"),sampleCall)] ⟨.none,0,[]⟩ =
      (fun r => (r.1,⟨.str (lit "7"),r.2,[] ++ [seedMessage (.str (lit "7"))]⟩)) <$>
        genRun counterRng 0 (sampleCall :: ([] : List (PyVal × Call)).map Prod.snd) 7 :=
  have hseed : (decimalBuiltins.int (.str (lit "7")) >>= npSeed id) = .ok 7 := rfl
  ⟨rfl,hseed,randRun_env_seed (.str (lit "7")) rfl hseed sampleCall [] 0 []⟩

/-- With the variable unset, `counterRng` draws the seed `0`, then the array `[-128,-128,0,127]`
(the minimum moved to index 0 takes the place of the drawn `-128`). -/
lemma randRun_counter_unset :
    randRun counterRng decimalBuiltins id 0 [(.none,sampleCall)] ⟨.none,0,[]⟩ =
      some ([.ok (.array ⟨[4],[-128,-128,0,127],rfl⟩)],⟨.int 0,4,[seedMessage (.int 0)]⟩) := rfl

theorem randRun_logged_seed_counter :
    PyVal.none.truthy = false ∧
    randRun counterRng decimalBuiltins id 0 [(.none,sampleCall)] ⟨.none,0,[]⟩ =
      some ([.ok (.array ⟨[4],[-128,-128,0,127],rfl⟩)],⟨.int 0,4,[seedMessage (.int 0)]⟩) ∧
    ∃ d : ℤ, 0 ≤ d ∧ d < 2147483648 ∧ [seedMessage (.int 0)] = [seedMessage (.int d)] ∧
      ∀ g' : ℕ, decimalBuiltins.int (.str (lit (toString d))) = .ok d →
        randRun counterRng decimalBuiltins id 0 [(.str (lit (toString d)),sampleCall)] ⟨.none,g',[]⟩ =
          some ([.ok (.array ⟨[4],[-128,-128,0,127],rfl⟩)],⟨.str (lit (toString d)),4,[seedMessage (.int 0)]⟩) :=
  ⟨rfl,randRun_counter_unset,randRun_logged_seed .none rfl sampleCall [] 0 randRun_counter_unset⟩

theorem randRun_rejected_seed_large :
    (PyVal.str (lit "4294967296")).truthy ∧
    (decimalBuiltins.int (.str (lit "4294967296")) >>= npSeed id) =
      .error (.valueError (lit "Seed must be between 0 and 2**32 - 1")) ∧
    randRun counterRng decimalBuiltins id 0 [(.str (lit "4294967296"),sampleCall),(.none,sampleCall)]
        ⟨.none,0,[]⟩ =
      (fun r => (.error (.valueError (lit "Seed must be between 0 and 2**32 - 1")) :: r.1,
          ⟨.str (lit "4294967296"),r.2,[]⟩)) <$>
        genRun counterRng 0 (([(.none,sampleCall)] : List (PyVal × Call)).map Prod.snd) 0 :=
  have hrej : (decimalBuiltins.int (.str (lit "4294967296")) >>= npSeed id) =
      .error (.valueError (lit "Seed must be between 0 and 2**32 - 1")) := rfl
  ⟨rfl,hrej,randRun_rejected_seed (.str (lit "4294967296")) rfl hrej sampleCall [(.none,sampleCall)] 0 []⟩

end Rand
end AipuCompass

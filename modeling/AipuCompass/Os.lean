import AipuCompass.Utf8

/-! The part of the Python runtime and of the operating system that the modelled code
touches: its exceptions, the process's working directory, files and environment, and the
calls that reach the OS. What the OS does is not modelled: an `Os` gives, for each call and
state, the exception the call raises if any, and for each launched tool its outcome. A
computation is an `EStateM` over the process state, so an exception keeps the state in
which it was raised. `KeepsCwd` marks the computations that return in the working directory they
started in; it holds of every call but `chdir` and is kept by sequencing. -/
namespace AipuCompass

/-- The exceptions the modelled code raises or lets through, with the text it gives them. -/
inductive PyExc
  | runtimeError (msg : PyStr)
  | assertionError (msg : PyStr)
  | valueError (msg : PyStr)
  | keyError (key : PyStr)
  | indexError
  | unicodeDecodeError
  | unicodeEncodeError
  | overflowError (msg : PyStr)
  | zeroDivisionError
  | timeoutError
  | osError (name : PyStr)
  deriving DecidableEq, Repr

/-- The process: working directory, file contents by absolute path, and `os.environ`. -/
structure World where
  cwd : PyStr
  files : PyStr → Option (List Byte)
  environ : PyStr → Option PyStr

/-- The calls that can fail for reasons the model does not track (permissions, a file where
a directory should be, a full disk). -/
inductive OsCall
  | makedirs (path : PyStr)
  | chdir (path : PyStr)
  | openWrite (path : PyStr)
  | openRead (path : PyStr)
  deriving DecidableEq, Repr

/-- What `subprocess.run` gives: the exit code, the bytes the tool wrote to its standard
output and error, and the files afterwards; or the exception raised while launching it. -/
inductive ToolOutcome
  | exited (code : ℤ) (output : List Byte) (files : PyStr → Option (List Byte))
  | raised (e : PyExc)

/-- The operating system and the tools it runs, as far as the modelled code can see. -/
structure Os where
  fault : World → OsCall → Option PyExc
  launch : List PyStr → Option (PyStr → Option PyStr) → World → ToolOutcome

/-- An OS on which every file-system call succeeds; tools may still fail. -/
def Os.NoFault (os : Os) : Prop := ∀ w c, os.fault w c = none

/-- A computation of the modelled Python code. -/
abbrev PyM := EStateM PyExc World

namespace PyM

variable (os : Os)

/-- A call that either fails as `os` says, or changes the state by `act`. -/
def osCall (c : OsCall) (act : World → World) : PyM Unit := fun w =>
  match os.fault w c with
  | some e => .error e w
  | none => .ok () (act w)

def getcwd : PyM PyStr := fun w => .ok w.cwd w

/-- `os.environ`. -/
def getEnviron : PyM (PyStr → Option PyStr) := fun w => .ok w.environ w

/-- `os.makedirs(path, exist_ok=True)`; directories are not tracked. -/
def makedirs (path : PyStr) : PyM Unit := osCall os (.makedirs path) id

def chdir (path : PyStr) : PyM Unit := osCall os (.chdir path) fun w => { w with cwd := path }

/-- `open(path, "w")`: the file exists and is empty. -/
def openWrite (path : PyStr) : PyM Unit :=
  osCall os (.openWrite path) fun w => { w with files := Function.update w.files path (some []) }

/-- Appends bytes to an open file. -/
def append (path : PyStr) (bs : List Byte) : PyM Unit := fun w =>
  .ok () { w with files := Function.update w.files path (some ((w.files path).getD [] ++ bs)) }

/-- `f.write(s)` on a file opened with `encoding="utf-8"`; POSIX writes `\n` as it is. -/
def writeText (path : PyStr) (s : PyStr) : PyM Unit :=
  match Utf8.encode s with
  | some bs => append path bs
  | none => throw .unicodeEncodeError

/-- `open(path, "rb").read()`. -/
def readBytes (path : PyStr) : PyM (List Byte) := do
  osCall os (.openRead path) id
  fun w => match w.files path with
    | some bs => .ok bs w
    | none => .error (.osError (lit "FileNotFoundError")) w

/-- `subprocess.run(cmd, stdout=f, stderr=STDOUT, check=False, env=env).returncode` with
`f` open on `log`: what the tool prints lands after what `log` already holds. -/
def runTool (cmd : List PyStr) (env : Option (PyStr → Option PyStr)) (log : PyStr) : PyM ℤ := fun w =>
  match os.launch cmd env w with
  | .raised e => .error e w
  | .exited code out files =>
    .ok code { w with files := Function.update files log (some ((w.files log).getD [] ++ out)) }

end PyM

/-! ### Text files -/

/-- `'\r'` -/
def cr : CodePoint := 13

/-- `'\n'` -/
def lf : CodePoint := 10

/-- Universal newlines on reading: `\r\n` and a lone `\r` both become `\n`; `afterCr` says
the character before was a `\r`, already given as `\n`. -/
def translateNewlines (afterCr : Bool) : PyStr → PyStr
  | [] => []
  | c :: s =>
    if c = cr then lf :: translateNewlines true s
    else if c = lf ∧ afterCr then translateNewlines false s
    else c :: translateNewlines false s

/-- `readlines()` on translated text, `cur` being the line read so far: every line keeps its
`\n`, and only the last may lack one. -/
def splitLines (cur : PyStr) : PyStr → List PyStr
  | [] => if cur = [] then [] else [cur]
  | c :: s => if c = lf then (cur ++ [lf]) :: splitLines [] s else splitLines (cur ++ [c]) s

example : splitLines [] (translateNewlines false [65,13,10,66,13]) = [[65,10],[66,10]] := by decide

/-- `'/'` -/
def slash : CodePoint := 47

/-- `posixpath.isabs`. -/
def isabs (p : PyStr) : Bool := p.head? == some slash

/-- `posixpath.join(a, b)` for two parts. -/
def join (a b : PyStr) : PyStr :=
  if isabs b then b else if a = [] ∨ a.getLast? = some slash then a ++ b else a ++ [slash] ++ b

/-- `posixpath.dirname`: everything up to the last slash, with the trailing slashes removed
unless it is all slashes. -/
def dirname (p : PyStr) : PyStr :=
  let head := p.take (p.length - (p.reverse.takeWhile (· ≠ slash)).length)
  if head ≠ [] ∧ ¬head.all (· = slash) then (head.reverse.dropWhile (· = slash)).reverse else head

example : dirname (lit "/a/b//c") = lit "/a/b" ∧ dirname (lit "//x") = lit "//" ∧ dirname (lit "x") = [] := by
  decide

/-- The root that `posixpath.splitroot` splits off: no slash, one slash, or exactly two
(three or more count as one), and the rest of the path. -/
def splitRoot (p : PyStr) : PyStr × PyStr :=
  if p.head? ≠ some slash then ([],p)
  else if p.get? 1 ≠ some slash ∨ p.get? 2 = some slash then ([slash],p.drop 1)
  else ([slash,slash],p.drop 2)

/-- One turn of the component loop of `normpath`, `kept` being the kept components in reverse:
`''` and `'.'` vanish, and `'..'` drops the component before it where there is one to drop. -/
def normStep (rooted : Bool) (kept : List PyStr) (comp : PyStr) : List PyStr :=
  if comp = [] ∨ comp = lit "." then kept
  else if comp ≠ lit ".." ∨ (!rooted ∧ kept = []) ∨ kept.head? = some (lit "..") then comp :: kept
  else kept.tail

/-- `posixpath.normpath`. -/
def normpath (p : PyStr) : PyStr :=
  if p = [] then lit "." else
  let root := (splitRoot p).1
  let comps := (((splitRoot p).2.splitOn slash).foldl (normStep (root ≠ [])) []).reverse
  let q := root ++ [slash].intercalate comps
  if q = [] then lit "." else q

example : normpath (lit "//a/./b/../../..//c/") = lit "//c" ∧ normpath (lit "../x/..") = lit ".." := by
  decide

namespace PyM

variable (os : Os)

/-- `open(path, "r", encoding="utf-8").read()`. -/
def readText (path : PyStr) : PyM PyStr := do
  let bs ← readBytes os path
  match Utf8.decode bs with
  | some s => pure (translateNewlines false s)
  | none => throw .unicodeDecodeError

/-- `open(path, "r", encoding="utf-8").readlines()`. -/
def readLines (path : PyStr) : PyM (List PyStr) := splitLines [] <$> readText os path

/-- `os.path.abspath(path)`. -/
def abspath (path : PyStr) : PyM PyStr := do
  if isabs path then pure (normpath path)
  else
    let cwd ← getcwd
    pure (normpath (join cwd path))

/-- The path `abspath` gives from working directory `cwd`. -/
def absPathOf (cwd path : PyStr) : PyStr := if isabs path then normpath path else normpath (join cwd path)

/-! ### Running a computation -/

variable {α β : Type} {x : PyM α} {f : α → PyM β} {w w' : World} {a : α} {e : PyExc}

/-- Running a computation is applying it to the state. -/
lemma run_eq (x : PyM α) (w : World) : x.run w = x w := rfl

lemma run_bind_ok (h : x.run w = .ok a w') : (x >>= f).run w = (f a).run w' := by
  simp only [run_eq] at h ⊢
  simp only [bind,EStateM.bind,h]

lemma run_bind_error (h : x.run w = .error e w') : (x >>= f).run w = .error e w' := by
  simp only [run_eq] at h ⊢
  simp only [bind,EStateM.bind,h]

lemma run_map_ok {g : α → β} (h : x.run w = .ok a w') : (g <$> x).run w = .ok (g a) w' := by
  simp only [run_eq] at h ⊢
  simp only [Functor.map,EStateM.map,h]

lemma run_map_error {g : α → β} (h : x.run w = .error e w') : (g <$> x).run w = .error e w' := by
  simp only [run_eq] at h ⊢
  simp only [Functor.map,EStateM.map,h]

/-- A computation that ends normally ran each of its two parts normally. -/
lemma run_bind_eq_ok {b : β} (h : (x >>= f).run w = .ok b w') : ∃ a w'', x.run w = .ok a w'' ∧ (f a).run w'' = .ok b w' := by
  simp only [run_eq,bind,EStateM.bind] at h ⊢
  split at h
  · exact ⟨_,_,‹_›,h⟩
  · cases h

@[simp] lemma run_pure (a : α) (w : World) : (pure a : PyM α).run w = .ok a w := rfl

@[simp] lemma run_throw (e : PyExc) (w : World) : (throw e : PyM α).run w = .error e w := rfl

@[simp] lemma run_ofExcept_ok (a : α) (w : World) : (ofExcept (.ok a) : PyM α).run w = .ok a w := rfl

@[simp] lemma run_ofExcept_error (e : PyExc) (w : World) : (ofExcept (.error e) : PyM α).run w = .error e w := rfl

@[simp] lemma run_getcwd (w : World) : (getcwd).run w = .ok w.cwd w := rfl

@[simp] lemma run_getEnviron (w : World) : (getEnviron).run w = .ok w.environ w := rfl

lemma run_abspath (p : PyStr) (w : World) : (abspath p).run w = .ok (absPathOf w.cwd p) w := by
  unfold abspath absPathOf
  split <;> rfl

lemma run_osCall_of_none {c : OsCall} {act : World → World} (h : os.fault w c = none) :
    (osCall os c act).run w = .ok () (act w) := by
  simp only [run_eq,osCall,h]

lemma run_osCall_of_some {c : OsCall} {act : World → World} (h : os.fault w c = some e) :
    (osCall os c act).run w = .error e w := by
  simp only [run_eq,osCall,h]

lemma run_readBytes_eq_ok {p : PyStr} {bs : List Byte} (h : (readBytes os p).run w = .ok bs w') :
    w' = w ∧ w.files p = some bs := by
  simp only [readBytes,run_eq,bind,EStateM.bind,osCall] at h
  cases hf : os.fault w (.openRead p) with
  | some e => simp [hf] at h
  | none =>
    cases hw : w.files p with
    | none => simp [hf,hw] at h
    | some bs' =>
      simp only [hf,hw,id,EStateM.Result.ok.injEq] at h
      exact ⟨h.2.symm,congrArg some h.1⟩

lemma run_readBytes {p : PyStr} {bs : List Byte} (hf : os.fault w (.openRead p) = none)
    (hb : w.files p = some bs) : (readBytes os p).run w = .ok bs w := by
  rw [readBytes,run_bind_ok (run_osCall_of_none os hf),run_eq]
  simp only [id,hb]

@[simp] lemma run_append (p : PyStr) (bs : List Byte) (w : World) :
    (append p bs).run w =
      .ok () { w with files := Function.update w.files p (some ((w.files p).getD [] ++ bs)) } := rfl

lemma run_readText_eq_ok {p : PyStr} {t : PyStr} (h : (readText os p).run w = .ok t w') :
    w' = w ∧ ∃ bs s, w.files p = some bs ∧ Utf8.decode bs = some s ∧ t = translateNewlines false s := by
  obtain ⟨bs,w'',hb,hr⟩ := run_bind_eq_ok h
  obtain ⟨rfl,hf⟩ := run_readBytes_eq_ok os hb
  cases hd : Utf8.decode bs with
  | none => simp only [hd,run_throw] at hr; cases hr
  | some s =>
    simp only [hd,run_pure] at hr
    cases hr
    exact ⟨rfl,bs,s,hf,hd,rfl⟩

lemma run_openWrite {p : PyStr} (hf : os.fault w (.openWrite p) = none) :
    (openWrite os p).run w = .ok () { w with files := Function.update w.files p (some []) } :=
  run_osCall_of_none os hf

lemma run_writeText {p s : PyStr} {bs : List Byte} (h : Utf8.encode s = some bs) (w : World) :
    (writeText p s).run w =
      .ok () { w with files := Function.update w.files p (some ((w.files p).getD [] ++ bs)) } := by
  rw [writeText,h]
  rfl

lemma run_writeText_unencodable {p s : PyStr} (h : Utf8.encode s = none) (w : World) :
    (writeText p s).run w = .error .unicodeEncodeError w := by
  rw [writeText,h]
  rfl

lemma run_readText {p : PyStr} {bs : List Byte} {s : PyStr} (hf : os.fault w (.openRead p) = none)
    (hb : w.files p = some bs) (hs : Utf8.decode bs = some s) :
    (readText os p).run w = .ok (translateNewlines false s) w := by
  rw [readText,run_bind_ok (run_readBytes os hf hb)]
  simp only [hs,run_pure]

lemma run_readText_undecodable {p : PyStr} {bs : List Byte} (hf : os.fault w (.openRead p) = none)
    (hb : w.files p = some bs) (hs : Utf8.decode bs = none) :
    (readText os p).run w = .error .unicodeDecodeError w := by
  rw [readText,run_bind_ok (run_readBytes os hf hb)]
  simp only [hs,run_throw]

lemma run_runTool_exited {cmd : List PyStr} {env : Option (PyStr → Option PyStr)} {log : PyStr}
    {code : ℤ} {out : List Byte} {files : PyStr → Option (List Byte)}
    (h : os.launch cmd env w = .exited code out files) :
    (runTool os cmd env log).run w =
      .ok code { w with files := Function.update files log (some ((w.files log).getD [] ++ out)) } := by
  simp only [run_eq,runTool,h]

lemma run_runTool_raised {cmd : List PyStr} {env : Option (PyStr → Option PyStr)} {log : PyStr}
    (h : os.launch cmd env w = .raised e) : (runTool os cmd env log).run w = .error e w := by
  simp only [run_eq,runTool,h]

/-- The process when a computation has ended, by returning or by raising. -/
def finalWorld : EStateM.Result PyExc World α → World
  | .ok _ w => w
  | .error _ w => w

/-! ### The working directory across a call -/

/-- A computation that, whenever it returns, leaves the process in the working directory it
started in. Only `chdir` moves it: every other call keeps it, and so does a sequence of calls
that each keep it. -/
def KeepsCwd (m : PyM α) : Prop := ∀ w a w', m.run w = .ok a w' → w'.cwd = w.cwd

lemma keepsCwd_of_state {m : PyM α} (h : ∀ w a w', m.run w = .ok a w' → w' = w) : KeepsCwd m :=
  fun w a w' hr => by rw [h w a w' hr]

lemma keepsCwd_pure (a : α) : KeepsCwd (pure a : PyM α) :=
  keepsCwd_of_state fun _ _ _ h => by cases h; rfl

lemma keepsCwd_throw (e : PyExc) : KeepsCwd (throw e : PyM α) := fun _ _ _ h => by cases h

lemma keepsCwd_bind {m : PyM α} {f : α → PyM β} (hm : KeepsCwd m) (hf : ∀ a, KeepsCwd (f a)) :
    KeepsCwd (m >>= f) := fun w b w' h => by
  obtain ⟨a,w₁,h₁,h₂⟩ := run_bind_eq_ok h
  exact (hf a _ _ _ h₂).trans (hm _ _ _ h₁)

lemma keepsCwd_ite {c : Prop} [Decidable c] {m m' : PyM α} (hm : KeepsCwd m) (hm' : KeepsCwd m') :
    KeepsCwd (if c then m else m') := by
  split <;> assumption

lemma keepsCwd_osCall {c : OsCall} {act : World → World} (h : ∀ w, (act w).cwd = w.cwd) :
    KeepsCwd (osCall os c act) := fun w a w' hr => by
  simp only [run_eq,osCall] at hr
  split at hr
  · cases hr
  · cases hr; exact h w

/-- `chdir` that returns has moved the process to its argument. -/
lemma run_chdir_eq_ok {p : PyStr} {u : Unit} (h : (chdir os p).run w = .ok u w') : w'.cwd = p := by
  simp only [run_eq,chdir,osCall] at h
  split at h
  · cases h
  · cases h; rfl

lemma keepsCwd_makedirs (p : PyStr) : KeepsCwd (makedirs os p) := keepsCwd_osCall os fun _ => rfl

lemma keepsCwd_openWrite (p : PyStr) : KeepsCwd (openWrite os p) := keepsCwd_osCall os fun _ => rfl

lemma keepsCwd_append (p : PyStr) (bs : List Byte) : KeepsCwd (append p bs) :=
  fun _ _ _ h => by rw [run_append] at h; cases h; rfl

lemma keepsCwd_writeText (p s : PyStr) : KeepsCwd (writeText p s) := by
  unfold writeText
  split
  · exact keepsCwd_append _ _
  · exact keepsCwd_throw _

lemma keepsCwd_readBytes (p : PyStr) : KeepsCwd (readBytes os p) :=
  keepsCwd_of_state fun _ _ _ h => (run_readBytes_eq_ok os h).1

lemma keepsCwd_readText (p : PyStr) : KeepsCwd (readText os p) :=
  keepsCwd_of_state fun _ _ _ h => (run_readText_eq_ok os h).1

end PyM
end AipuCompass

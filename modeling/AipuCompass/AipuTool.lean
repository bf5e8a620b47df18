import AipuCompass.Os
import Mathlib.Tactic.Ring

/-! `check_call_aipu_tool` of `tvm/aipu/utils.py`: run one AIPUBuilder tool in its work
directory with its output in `<work_dir>/<exe>.log`, scan the log for `Total errors: N`, go
back to the old working directory and raise `RuntimeError` when the exit code or the log
reports an error. The scan reads each match with `int()`, which raises `ValueError` on a match
longer than the interpreter's limit on digits. Whenever the call returns, the process is back
where it was; whenever the tool has exited, the log holds this run's command line and output
and nothing older. -/
namespace AipuCompass
namespace AipuTool
open PyM

/-- `_EXE_NAME2TOOL_NAME`. -/
def exeName2ToolName : List (PyStr × PyStr) :=
  [(lit "aipuopt",lit "Optimizer"),(lit "aipugb",lit "GBuilder"),(lit "aipugsim",lit "GSim"),
    (lit "aipurun",lit "AIPURun"),(lit "aipu_profiler",lit "Profiler")]

/-- What `\d` and `int()` take from the interpreter: the Unicode decimal digits with their
values (category Nd), and the limit on the digits `int()` reads. The database is a parameter;
only its ASCII part is fixed. -/
structure DecimalTable where
  value : CodePoint → Option (Fin 10)
  ascii : ∀ c : CodePoint, c.val < 0x80 →
    value c = if h : 0x30 ≤ c.val ∧ c.val ≤ 0x39 then some ⟨c.val-0x30,by omega⟩ else none
  /-- `sys.get_int_max_str_digits()`, 0 for no limit: 4300 unless changed in CPython 3.11 and
  the releases 3.7.14, 3.8.14, 3.9.14 and 3.10.7; earlier releases behave as 0. -/
  maxStrDigits : ℕ
  /-- `sys.set_int_max_str_digits` refuses 1 to 639. -/
  maxStrDigits_valid : maxStrDigits = 0 ∨ 640 ≤ maxStrDigits

/-- The ASCII part alone, with the default limit. -/
def DecimalTable.asciiOnly : DecimalTable where
  value c := if h : 0x30 ≤ c.val ∧ c.val ≤ 0x39 then some ⟨c.val-0x30,by omega⟩ else none
  ascii _ _ := rfl
  maxStrDigits := 4300
  maxStrDigits_valid := .inr (by decide)

section Scan

variable (dec : DecimalTable)

/-- `\d`. -/
def IsDigit (c : CodePoint) : Bool := (dec.value c).isSome

/-- The lookbehind of `(?<=Total errors: )\d+`. -/
def errorTag : PyStr := lit "Total errors: "

/-- `error_pattern.findall(line)`, left to right: `before` is the text already read,
reversed, and `run` the digits of the match being read. -/
def findErrors (before : PyStr) : Option PyStr → PyStr → List PyStr
  | run,[] => run.toList
  | some m,c :: s =>
    if IsDigit dec c then findErrors (c :: before) (some (m ++ [c])) s
    else m :: findErrors (c :: before) none s
  | none,c :: s =>
    if errorTag.reverse.isPrefixOf before ∧ IsDigit dec c then findErrors (c :: before) (some [c]) s
    else findErrors (c :: before) none s

/-- The value of a run of digits. -/
def intValue (m : PyStr) : ℕ := m.foldl (fun n c => 10*n+((dec.value c).getD 0).val) 0

/-- `_PY_LONG_MAX_STR_DIGITS_THRESHOLD`: `int()` looks at the limit only above it. -/
def maxStrDigitsThreshold : ℕ := 640

/-- `int()` refuses the run `m`: it has more digits than the limit, leading zeros included. -/
def TooLong (m : PyStr) : Prop :=
  maxStrDigitsThreshold < m.length ∧ 0 < dec.maxStrDigits ∧ dec.maxStrDigits < m.length

instance (m : PyStr) : Decidable (TooLong dec m) := inferInstanceAs (Decidable (_ ∧ _ ∧ _))

/-- `_MAX_STR_DIGITS_ERROR_FMT_TO_INT`. -/
def intLimitMessage (limit digits : ℕ) : PyStr :=
  lit "Exceeds the limit (" ++ lit (toString limit) ++
    lit " digits) for integer string conversion: value has " ++ lit (toString digits) ++
    lit " digits; use sys.set_int_max_str_digits() to increase the limit"

/-- `int(digit)` for a run of digits. -/
def pyInt (m : PyStr) : Except PyExc ℕ :=
  if TooLong dec m then .error (.valueError (intLimitMessage dec.maxStrDigits m.length))
  else .ok (intValue dec m)

/-- `for digit in digit_list: if int(digit) > 0: count_errors = int(digit); break`. -/
def scanDigits (count : ℕ) : List PyStr → Except PyExc ℕ
  | [] => pure count
  | d :: ds => do if (← pyInt dec d) > 0 then pyInt dec d else scanDigits count ds

/-- The `for line in f.readlines()` loop, giving `count_errors`. -/
def scanLines (count : ℕ) : List PyStr → Except PyExc ℕ
  | [] => pure count
  | line :: lines => do
    let digitList := findErrors dec [] none line
    if digitList.length = 0 then scanLines count lines
    else
      let count ← scanDigits dec count digitList
      if count ≠ 0 then pure count else scanLines count lines

example : findErrors .asciiOnly [] none (lit "Total errors: 12, Total errors: 0, errors: 3") =
    [lit "12",lit "0"] := by decide

/-! ### The log scan -/

lemma intValue_append (a b : PyStr) : intValue dec (a ++ b) = intValue dec a * 10^b.length + intValue dec b := by
  have h : ∀ n : ℕ, b.foldl (fun n c => 10*n+((dec.value c).getD 0).val) n =
      n * 10^b.length + intValue dec b := by
    induction b with
    | nil => simp [intValue]
    | cons c b ih =>
      intro n
      simp only [intValue,List.foldl_cons,List.length_cons,pow_succ] at *
      rw [ih,ih (10*0+_)]
      ring
  simp only [intValue,List.foldl_append] at *
  exact h _

lemma intValue_pos_mono {m m' : PyStr} (hp : m <+: m') (hm : 0 < intValue dec m) :
    0 < intValue dec m' := by
  obtain ⟨t,rfl⟩ := hp
  rw [intValue_append]
  exact Nat.add_pos_left (Nat.mul_pos hm (Nat.pos_pow_of_pos _ (by decide))) _

/-- The threshold never matters: the limit is 0 or above it. -/
lemma tooLong_iff (m : PyStr) : TooLong dec m ↔ 0 < dec.maxStrDigits ∧ dec.maxStrDigits < m.length := by
  have := dec.maxStrDigits_valid
  simp only [TooLong,maxStrDigitsThreshold]
  omega

/-- The matches of `error_pattern` in the log, line after line. -/
def logMatches (lines : List PyStr) : List PyStr := lines.flatMap (findErrors dec [] none)

/-- `int()` refuses the match `m`, and the scan gets to it: every match before it reads as 0. -/
def RefusedAt (ms : List PyStr) (m : PyStr) : Prop :=
  ∃ pre post, ms = pre ++ m :: post ∧ TooLong dec m ∧ ∀ x ∈ pre, ¬TooLong dec x ∧ intValue dec x = 0

/-- A log none of whose matches is too long reaches no refused match. -/
lemma not_refusedAt_of_forall {ms : List PyStr} (h : ∀ x ∈ ms, ¬TooLong dec x) (m : PyStr) :
    ¬RefusedAt dec ms m := fun ⟨_,_,he,hm,_⟩ => h m (he ▸ List.mem_append_right _ (List.mem_cons_self _ _)) hm

lemma scanDigits_cons_of_not_tooLong {d : PyStr} (hd : ¬TooLong dec d) (count : ℕ) (ds : List PyStr) :
    scanDigits dec count (d :: ds) =
      if intValue dec d > 0 then .ok (intValue dec d) else scanDigits dec count ds := by
  simp only [scanDigits,pyInt,if_neg hd]
  rfl

/-- Scanning two lists of matches from 0 scans the second only when the first gave 0. -/
lemma scanDigits_append (ds rest : List PyStr) :
    scanDigits dec 0 (ds ++ rest) =
      scanDigits dec 0 ds >>= fun c => if c ≠ 0 then pure c else scanDigits dec 0 rest := by
  induction ds with
  | nil => rfl
  | cons d ds ih =>
    by_cases hd : TooLong dec d
    · simp only [List.cons_append,scanDigits,pyInt,if_pos hd]
      rfl
    · rw [List.cons_append,scanDigits_cons_of_not_tooLong dec hd,scanDigits_cons_of_not_tooLong dec hd]
      split_ifs with hp
      · exact (if_pos (Nat.pos_iff_ne_zero.mp hp)).symm
      · exact ih

/-- The nested loop over lines and matches, with its two `break`s, is one loop over all the
matches of the log. -/
theorem scanLines_eq_scanDigits (lines : List PyStr) :
    scanLines dec 0 lines = scanDigits dec 0 (logMatches dec lines) := by
  induction lines with
  | nil => rfl
  | cons line lines ih =>
    rw [logMatches,List.flatMap_cons,scanDigits_append,← logMatches,← ih,scanLines]
    split_ifs with h0
    · rw [List.length_eq_zero.mp h0]
      rfl
    · refine congrArg _ (funext fun c => ?_)
      split_ifs with hc
      · rfl
      · rw [not_not.mp hc]

lemma scanDigits_of_forall_zero {ms : List PyStr} (h : ∀ x ∈ ms, ¬TooLong dec x ∧ intValue dec x = 0) :
    scanDigits dec 0 ms = .ok 0 := by
  induction ms with
  | nil => rfl
  | cons d ds ih =>
    obtain ⟨hd,hv⟩ := h d (List.mem_cons_self _ _)
    rw [scanDigits_cons_of_not_tooLong dec hd,if_neg (by omega)]
    exact ih fun x hx => h x (List.mem_cons_of_mem _ hx)

/-- The scan raises on a refused match it gets to. -/
lemma scanDigits_of_refusedAt {ms : List PyStr} {m : PyStr} (h : RefusedAt dec ms m) :
    scanDigits dec 0 ms = .error (.valueError (intLimitMessage dec.maxStrDigits m.length)) := by
  obtain ⟨pre,post,rfl,hm,hpre⟩ := h
  rw [scanDigits_append,scanDigits_of_forall_zero dec hpre]
  simp only [scanDigits,pyInt,if_pos hm]
  rfl

/-- Where the scan gets to no refused match, it gives a count, positive exactly when some match
is. -/
lemma scanDigits_of_not_refused {ms : List PyStr} (h : ∀ m, ¬RefusedAt dec ms m) :
    ∃ n, scanDigits dec 0 ms = .ok n ∧ (n ≠ 0 ↔ ∃ m ∈ ms, 0 < intValue dec m) := by
  induction ms with
  | nil => exact ⟨0,rfl,by simp⟩
  | cons d ds ih =>
    have hd : ¬TooLong dec d := fun hd => h d ⟨[],ds,rfl,hd,by simp⟩
    rw [scanDigits_cons_of_not_tooLong dec hd]
    by_cases hp : intValue dec d > 0
    · exact ⟨_,if_pos hp,fun _ => ⟨d,List.mem_cons_self _ _,hp⟩,fun _ => by omega⟩
    · have hds : ∀ m, ¬RefusedAt dec ds m := fun m ⟨pre,post,he,hm,hpre⟩ =>
        h m ⟨d :: pre,post,by rw [he,List.cons_append],hm,
          List.forall_mem_cons.mpr ⟨⟨hd,by omega⟩,hpre⟩⟩
      obtain ⟨n,hn,hiff⟩ := ih hds
      refine ⟨n,by rw [if_neg hp,hn],hiff.trans ⟨fun ⟨m,hm,hp'⟩ => ⟨m,List.mem_cons_of_mem _ hm,hp'⟩,?_⟩⟩
      rintro ⟨m,hm,hp'⟩
      rcases List.mem_cons.mp hm with rfl | hm
      · exact absurd hp' hp
      · exact ⟨m,hm,hp'⟩

/-! ### The regular expression -/

/-- Inside a match the scan has read only digits, right after the tag. -/
def RunInv (before : PyStr) : Option PyStr → Prop
  | none => True
  | some r => (∀ c ∈ r, IsDigit dec c) ∧ ∃ x, before = r.reverse ++ errorTag.reverse ++ x

/-- Every match is a run of digits right after `Total errors: `. -/
lemma findErrors_sound {before s m : PyStr} {run : Option PyStr} (hrun : RunInv dec before run)
    (hm : m ∈ findErrors dec before run s) :
    (∀ c ∈ m, IsDigit dec c) ∧ ∃ pre post, before.reverse ++ s = pre ++ errorTag ++ m ++ post := by
  induction s generalizing before run with
  | nil =>
    cases run with
    | none => simp [findErrors] at hm
    | some r =>
      simp only [findErrors,Option.toList,List.mem_singleton] at hm
      subst hm
      obtain ⟨hd,x,rfl⟩ := hrun
      exact ⟨hd,x.reverse,[],by simp⟩
  | cons c s ih =>
    cases run with
    | some r =>
      obtain ⟨hd,x,rfl⟩ := hrun
      simp only [findErrors] at hm
      split_ifs at hm with hc
      · have hinv : RunInv dec (c :: (r.reverse ++ errorTag.reverse ++ x)) (some (r ++ [c])) := by
          refine ⟨fun y hy => ?_,x,by simp⟩
          rcases List.mem_append.mp hy with hy | hy
          · exact hd y hy
          · rw [List.mem_singleton.mp hy]; exact hc
        simpa using ih hinv hm
      · rcases List.mem_cons.mp hm with rfl | hm
        · exact ⟨hd,x.reverse,c :: s,by simp⟩
        · simpa using ih (show RunInv dec _ none from trivial) hm
    | none =>
      simp only [findErrors] at hm
      split_ifs at hm with hc
      · obtain ⟨x,rfl⟩ := List.isPrefixOf_iff_prefix.mp hc.1
        have hinv : RunInv dec (c :: (errorTag.reverse ++ x)) (some [c]) :=
          ⟨fun y hy => by rw [List.mem_singleton.mp hy]; exact hc.2,x,by simp⟩
        simpa using ih hinv hm
      · simpa using ih (show RunInv dec _ none from trivial) hm

lemma findErrors_extends_run (before r post : PyStr) :
    ∃ m, r <+: m ∧ m ∈ findErrors dec before (some r) post := by
  induction post generalizing before r with
  | nil => exact ⟨r,List.prefix_refl r,by simp [findErrors]⟩
  | cons c post ih =>
    by_cases hc : IsDigit dec c
    · obtain ⟨m,hm,hmem⟩ := ih (c :: before) (r ++ [c])
      refine ⟨m,(List.prefix_append r [c]).trans hm,?_⟩
      simpa only [findErrors,hc,if_true] using hmem
    · exact ⟨r,List.prefix_refl r,by simp [findErrors,hc]⟩

lemma findErrors_extends_digits (before r d post : PyStr) (hd : ∀ c ∈ d, IsDigit dec c) :
    ∃ m, r ++ d <+: m ∧ m ∈ findErrors dec before (some r) (d ++ post) := by
  induction d generalizing before r with
  | nil => simpa using findErrors_extends_run dec before r post
  | cons c d ih =>
    obtain ⟨m,hm,hmem⟩ := ih (c :: before) (r ++ [c]) (fun x hx => hd x (List.mem_cons_of_mem _ hx))
    refine ⟨m,by simpa using hm,?_⟩
    simpa only [List.cons_append,findErrors,hd c (List.mem_cons_self _ _),if_true] using hmem

/-- A character that is not a digit ends every match: the scan goes on from `none`. -/
lemma findErrors_after_nondigit {c : CodePoint} (hc : IsDigit dec c = false) (u v : PyStr) :
    ∀ before run, ∃ l, findErrors dec before run (u ++ c :: v) =
      l ++ findErrors dec (c :: (u.reverse ++ before)) none v := by
  induction u with
  | nil =>
    intro before run
    cases run with
    | none => exact ⟨[],by simp [findErrors,hc]⟩
    | some m => exact ⟨[m],by simp [findErrors,hc]⟩
  | cons a u ih =>
    intro before run
    have step : ∃ l run', findErrors dec before run (a :: (u ++ c :: v)) =
        l ++ findErrors dec (a :: before) run' (u ++ c :: v) := by
      cases run with
      | none =>
        by_cases ha : errorTag.reverse.isPrefixOf before ∧ IsDigit dec a
        · exact ⟨[],some [a],by simp only [findErrors,if_pos ha,List.nil_append]⟩
        · exact ⟨[],none,by simp only [findErrors,if_neg ha,List.nil_append]⟩
      | some m =>
        by_cases ha : IsDigit dec a
        · exact ⟨[],some (m ++ [a]),by simp only [findErrors,ha,if_true,List.nil_append]⟩
        · exact ⟨[m],none,by simp [findErrors,ha]⟩
    obtain ⟨l,run',h⟩ := step
    obtain ⟨l',h'⟩ := ih (a :: before) run'
    exact ⟨l ++ l',by rw [List.cons_append,h,h']; simp⟩

lemma errorTag_eq : errorTag = lit "Total errors:" ++ [32] := by decide

lemma isDigit_space : IsDigit dec 32 = false := by
  rw [IsDigit,dec.ascii 32 (by decide)]; decide

/-- A positive numeral right after the tag is found, possibly with more digits after it. -/
lemma exists_pos_findErrors {pre m post : PyStr} (hd : ∀ c ∈ m, IsDigit dec c) (hm : 0 < intValue dec m) :
    ∃ m' ∈ findErrors dec [] none (pre ++ errorTag ++ m ++ post), 0 < intValue dec m' := by
  obtain ⟨c0,m1,rfl⟩ : ∃ c0 m1, m = c0 :: m1 := by
    cases m with
    | nil => simp [intValue] at hm
    | cons c0 m1 => exact ⟨c0,m1,rfl⟩
  have hsplit : pre ++ errorTag ++ c0 :: m1 ++ post = (pre ++ lit "Total errors:") ++ 32 :: (c0 :: m1 ++ post) := by
    simp [errorTag_eq]
  obtain ⟨l,hl⟩ := findErrors_after_nondigit dec (isDigit_space dec) (pre ++ lit "Total errors:")
    (c0 :: m1 ++ post) [] none
  have htag : errorTag.reverse.isPrefixOf (32 :: ((pre ++ lit "Total errors:").reverse ++ [])) ∧
      IsDigit dec c0 := by
    refine ⟨List.isPrefixOf_iff_prefix.mpr ?_,hd c0 (List.mem_cons_self _ _)⟩
    rw [errorTag_eq]
    simp
  obtain ⟨m',hm',hmem⟩ := findErrors_extends_digits dec _ [c0] m1 post
    (fun x hx => hd x (List.mem_cons_of_mem _ hx))
  refine ⟨m',?_,intValue_pos_mono dec hm' hm⟩
  rw [hsplit,hl,List.cons_append,findErrors,if_pos htag]
  exact List.mem_append_right _ hmem

/-- Some line of the log has `Total errors: ` right before a positive decimal numeral. -/
def ReportsErrors (lines : List PyStr) : Prop :=
  ∃ line ∈ lines, ∃ pre m post, line = pre ++ errorTag ++ m ++ post ∧
    (∀ c ∈ m, IsDigit dec c) ∧ 0 < intValue dec m

/-- A match of the log is positive exactly when some line reports errors. -/
theorem exists_pos_logMatches_iff (lines : List PyStr) :
    (∃ m ∈ logMatches dec lines, 0 < intValue dec m) ↔ ReportsErrors dec lines := by
  simp only [logMatches,List.mem_flatMap,ReportsErrors]
  constructor
  · rintro ⟨m,⟨line,hl,hm⟩,hp⟩
    obtain ⟨hd,pre,post,he⟩ := findErrors_sound dec (show RunInv dec _ none from trivial) hm
    exact ⟨line,hl,pre,m,post,by simpa using he,hd,hp⟩
  · rintro ⟨line,hl,pre,m,post,rfl,hd,hp⟩
    obtain ⟨m',hm',hp'⟩ := exists_pos_findErrors dec hd hp
    exact ⟨m',⟨_,hl,hm'⟩,hp'⟩

instance (lines : List PyStr) : Decidable (ReportsErrors dec lines) :=
  decidable_of_iff _ (exists_pos_logMatches_iff dec lines)

end Scan

/-- The first line of the log. -/
def header (cmd : List PyStr) : PyStr := lit "Command Line: " ++ (lit " ").intercalate cmd ++ lit "\n"

/-- `f"{work_dir}/{exe_name}.log"`. -/
def logFile (workDir exeName : PyStr) : PyStr := workDir ++ lit "/" ++ exeName ++ lit ".log"

/-- The text of the `RuntimeError`. -/
def errorMessage (tool log : PyStr) : PyStr :=
  lit "Error happened when executing the AIPU " ++ tool ++
    lit ", for more details, please refer to the log file \"" ++ log ++ lit "\"."

/-- The environment of the tool: the parent's, except that `aipuopt` runs with
`OMP_NUM_THREADS=4`. -/
def toolEnv (exeName : PyStr) : PyM (Option (PyStr → Option PyStr)) := do
  if exeName = lit "aipuopt" then
    let env ← getEnviron
    pure (some (Function.update env (lit "OMP_NUM_THREADS") (some (lit "4"))))
  else pure none

section Call

variable (os : Os)

/-- Lines 26-30: make the work directory absolute and enter it unless it is already the
working directory; gives it with the old working directory. -/
def enterWorkDir (workDir : PyStr) : PyM (PyStr × PyStr) := do
  let workDir ← abspath workDir
  let oldCwd ← getcwd
  if workDir ≠ oldCwd then
    makedirs os workDir
    chdir os workDir
  pure (workDir,oldCwd)

/-- Lines 32-51: write the command line to the log, then run the tool with its output
appended to the log; gives the executable's name and the exit code. -/
def runLogged (cmd : List PyStr) (workDir : PyStr) : PyM (PyStr × ℤ) := do
  let exeName ← match cmd.head? with
    | some e => pure e
    | none => throw .indexError
  let log := logFile workDir exeName
  openWrite os log
  writeText log (header cmd)
  let env ← toolEnv exeName
  let retCode ← runTool os cmd env log
  pure (exeName,retCode)

/-- Lines 53-65: `count_errors` from the log read back; an `int()` that raises ends the call. -/
def countErrors (dec : DecimalTable) (log : PyStr) : PyM ℕ := do
  let lines ← readLines os log
  ofExcept (scanLines dec 0 lines)

/-- Lines 67-68: back to the old working directory. -/
def leaveWorkDir (oldCwd : PyStr) : PyM Unit := do
  let cwd ← getcwd
  if oldCwd ≠ cwd then chdir os oldCwd

/-- Lines 70-74: `RuntimeError` for a failed run, naming the tool; an executable that
`_EXE_NAME2TOOL_NAME` lacks raises `KeyError` while the message is formatted. -/
def raiseOnError (exeName log : PyStr) (retCode : ℤ) (countErrors : ℕ) : PyM Unit :=
  if retCode ≠ 0 ∨ countErrors ≠ 0 then
    match exeName2ToolName.lookup exeName with
    | some tool => throw (.runtimeError (errorMessage tool log))
    | none => throw (.keyError exeName)
  else pure ()

/-- `check_call_aipu_tool(cmd, work_dir)`. -/
def checkCallAipuTool (dec : DecimalTable) (cmd : List PyStr) (workDir : PyStr) : PyM Unit := do
  let (workDir,oldCwd) ← enterWorkDir os workDir
  let (exeName,retCode) ← runLogged os cmd workDir
  let countErrors ← countErrors os dec (logFile workDir exeName)
  leaveWorkDir os oldCwd
  raiseOnError exeName (logFile workDir exeName) retCode countErrors

end Call

/-- The lines `readlines()` gives of a log holding the command line and then `text`. -/
def logLines (cmd : List PyStr) (text : PyStr) : List PyStr :=
  splitLines [] (translateNewlines false (header cmd ++ text))

lemma decode_log {cmd : List PyStr} {bs out : List Byte} {text : PyStr} (hb : Utf8.encode (header cmd) = some bs)
    (ht : Utf8.decode out = some text) : Utf8.decode (bs ++ out) = some (header cmd ++ text) := by
  rw [Utf8.decode_encode_append hb,ht]
  rfl

lemma finalWorld_raiseOnError (exe log : PyStr) (code : ℤ) (n : ℕ) (w : World) :
    finalWorld ((raiseOnError exe log code n).run w) = w := by
  unfold raiseOnError
  split
  · split <;> rfl
  · rfl

/-! ### Runs -/

section Runs

variable {os : Os} (hos : os.NoFault)
include hos

lemma run_enterWorkDir (workDir : PyStr) (w : World) :
    (enterWorkDir os workDir).run w =
      .ok (absPathOf w.cwd workDir,w.cwd) { w with cwd := absPathOf w.cwd workDir } := by
  rw [enterWorkDir,run_bind_ok (run_abspath workDir w),run_bind_ok (run_getcwd w)]
  dsimp only
  split_ifs with h
  · rw [makedirs,chdir,run_bind_ok (run_osCall_of_none os (hos _ _)),
      run_bind_ok (run_osCall_of_none os (hos _ _))]
    rfl
  · rw [run_bind_ok (run_pure _ _),run_pure,not_not.mp h]

lemma run_leaveWorkDir (oldCwd : PyStr) (w : World) :
    (leaveWorkDir os oldCwd).run w = .ok () { w with cwd := oldCwd } := by
  rw [leaveWorkDir,run_bind_ok (run_getcwd w)]
  split_ifs with h
  · rw [chdir,run_osCall_of_none os (hos _ _)]
  · rw [run_pure,not_not.mp h]

lemma run_countErrors_ok (dec : DecimalTable) {log : PyStr} {w : World} {bs : List Byte} {text : PyStr}
    (hf : w.files log = some bs) (ht : Utf8.decode bs = some text) {n : ℕ}
    (hn : scanLines dec 0 (splitLines [] (translateNewlines false text)) = .ok n) :
    (countErrors os dec log).run w = .ok n w := by
  rw [countErrors,readLines,run_bind_ok (run_map_ok (run_readText os (hos _ _) hf ht)),hn]
  rfl

lemma run_countErrors_error (dec : DecimalTable) {log : PyStr} {w : World} {bs : List Byte} {text : PyStr}
    (hf : w.files log = some bs) (ht : Utf8.decode bs = some text) {e : PyExc}
    (he : scanLines dec 0 (splitLines [] (translateNewlines false text)) = .error e) :
    (countErrors os dec log).run w = .error e w := by
  rw [countErrors,readLines,run_bind_ok (run_map_ok (run_readText os (hos _ _) hf ht)),he]
  rfl

lemma run_countErrors_undecodable (dec : DecimalTable) {log : PyStr} {w : World} {bs : List Byte}
    (hf : w.files log = some bs) (ht : Utf8.decode bs = none) :
    (countErrors os dec log).run w = .error .unicodeDecodeError w := by
  rw [countErrors,readLines,run_bind_error (run_map_error (run_readText_undecodable os (hos _ _) hf ht))]

omit hos in
lemma run_toolEnv (exe : PyStr) (w : World) :
    (toolEnv exe).run w = .ok (if exe = lit "aipuopt"
      then some (Function.update w.environ (lit "OMP_NUM_THREADS") (some (lit "4"))) else none) w := by
  rw [toolEnv]
  split_ifs
  · exact (run_bind_ok (run_getEnviron w)).trans (run_pure _ _)
  · exact run_pure _ _

lemma run_runLogged_opened {cmd : List PyStr} {exe : PyStr} (hexe : cmd.head? = some exe) (workDir : PyStr)
    (w : World) : (runLogged os cmd workDir).run w =
      (writeText (logFile workDir exe) (header cmd) >>= fun _ => toolEnv exe >>= fun env =>
        runTool os cmd env (logFile workDir exe) >>= fun retCode => pure (exe,retCode)).run
      { w with files := Function.update w.files (logFile workDir exe) (some []) } := by
  rw [runLogged,hexe]
  dsimp only
  rw [run_bind_ok (run_pure _ _),run_bind_ok (run_openWrite os (hos _ _))]

lemma run_runLogged {cmd : List PyStr} {exe : PyStr} {bs out : List Byte} {code : ℤ}
    {files : PyStr → Option (List Byte)} (hexe : cmd.head? = some exe) (hb : Utf8.encode (header cmd) = some bs)
    (hl : ∀ env w, os.launch cmd env w = .exited code out files) (workDir : PyStr) (w : World) :
    (runLogged os cmd workDir).run w =
      .ok (exe,code) { w with files := Function.update files (logFile workDir exe) (some (bs ++ out)) } := by
  rw [run_runLogged_opened hos hexe,run_bind_ok (run_writeText hb _),run_bind_ok (run_toolEnv _ _),
    run_bind_ok (run_runTool_exited os (hl _ _)),run_pure]
  simp

lemma run_runLogged_raised {cmd : List PyStr} {exe : PyStr} {bs : List Byte} {e : PyExc}
    (hexe : cmd.head? = some exe) (hb : Utf8.encode (header cmd) = some bs)
    (hl : ∀ env w, os.launch cmd env w = .raised e) (workDir : PyStr) (w : World) :
    (runLogged os cmd workDir).run w =
      .error e { w with files := Function.update w.files (logFile workDir exe) (some bs) } := by
  rw [run_runLogged_opened hos hexe,run_bind_ok (run_writeText hb _),run_bind_ok (run_toolEnv _ _),
    run_bind_error (run_runTool_raised os (hl _ _))]
  simp

lemma run_runLogged_unencodable {cmd : List PyStr} {exe : PyStr} (hexe : cmd.head? = some exe)
    (hb : Utf8.encode (header cmd) = none) (workDir : PyStr) (w : World) :
    (runLogged os cmd workDir).run w =
      .error .unicodeEncodeError { w with files := Function.update w.files (logFile workDir exe) (some []) } := by
  rw [run_runLogged_opened hos hexe,run_bind_error (run_writeText_unencodable hb _)]

/-- Once the tool has exited, the call goes on with the log scan, in the work directory and
with the log holding the command line and the tool's output. -/
lemma run_checkCallAipuTool_exited (dec : DecimalTable) {cmd : List PyStr} {exe : PyStr} {bs out : List Byte}
    {code : ℤ} {files : PyStr → Option (List Byte)} (hexe : cmd.head? = some exe)
    (hb : Utf8.encode (header cmd) = some bs) (hl : ∀ env w, os.launch cmd env w = .exited code out files)
    (workDir : PyStr) (w : World) :
    (checkCallAipuTool os dec cmd workDir).run w =
      (countErrors os dec (logFile (absPathOf w.cwd workDir) exe) >>= fun n =>
        leaveWorkDir os w.cwd >>= fun _ => raiseOnError exe (logFile (absPathOf w.cwd workDir) exe) code n).run
      { w with cwd := absPathOf w.cwd workDir,
               files := Function.update files (logFile (absPathOf w.cwd workDir) exe) (some (bs ++ out)) } := by
  rw [checkCallAipuTool,run_bind_ok (run_enterWorkDir hos workDir w)]
  dsimp only
  rw [run_bind_ok (run_runLogged hos hexe hb hl _ _)]

theorem checkCallAipuTool_exited (dec : DecimalTable) {cmd : List PyStr} {exe tool : PyStr}
    (hexe : cmd.head? = some exe) (htool : exeName2ToolName.lookup exe = some tool)
    (hb : (Utf8.encode (header cmd)).isSome) {code : ℤ} {out : List Byte} {files : PyStr → Option (List Byte)}
    (hl : ∀ env w, os.launch cmd env w = .exited code out files) {text : PyStr} (ht : Utf8.decode out = some text)
    (hr : ∀ m, ¬RefusedAt dec (logMatches dec (logLines cmd text)) m) (workDir : PyStr) (w : World) :
    ∃ w', w'.cwd = w.cwd ∧ (checkCallAipuTool os dec cmd workDir).run w =
      if code = 0 ∧ ¬ReportsErrors dec (logLines cmd text) then .ok () w'
      else .error (.runtimeError (errorMessage tool (logFile (absPathOf w.cwd workDir) exe))) w' := by
  obtain ⟨bs,hbs⟩ := Option.isSome_iff_exists.mp hb
  obtain ⟨n,hn,hiff⟩ := scanDigits_of_not_refused dec hr
  rw [← scanLines_eq_scanDigits] at hn
  refine ⟨{ w with files := Function.update files (logFile (absPathOf w.cwd workDir) exe) (some (bs ++ out)) },
    rfl,?_⟩
  rw [run_checkCallAipuTool_exited hos dec hexe hbs hl,
    run_bind_ok (run_countErrors_ok hos dec (Function.update_same _ _ _) (decode_log hbs ht) hn),
    run_bind_ok (run_leaveWorkDir hos _ _),raiseOnError]
  have key : n ≠ 0 ↔ ReportsErrors dec (logLines cmd text) := hiff.trans (exists_pos_logMatches_iff dec _)
  by_cases hc : code = 0 ∧ ¬ReportsErrors dec (logLines cmd text)
  · rw [if_pos hc,if_neg (by rw [key]; exact fun h => h.elim (· hc.1) hc.2)]
    rfl
  · rw [if_neg hc,if_pos (by rw [key]; exact (not_and_or.mp hc).imp_right not_not.mp),htool]
    rfl

theorem checkCallAipuTool_refused (dec : DecimalTable) {cmd : List PyStr} {exe : PyStr}
    (hexe : cmd.head? = some exe) (hb : (Utf8.encode (header cmd)).isSome) {code : ℤ} {out : List Byte}
    {files : PyStr → Option (List Byte)} (hl : ∀ env w, os.launch cmd env w = .exited code out files)
    {text : PyStr} (ht : Utf8.decode out = some text) {m : PyStr}
    (hm : RefusedAt dec (logMatches dec (logLines cmd text)) m) (workDir : PyStr) (w : World) :
    ∃ w', w'.cwd = absPathOf w.cwd workDir ∧ (checkCallAipuTool os dec cmd workDir).run w =
      .error (.valueError (intLimitMessage dec.maxStrDigits m.length)) w' := by
  obtain ⟨bs,hbs⟩ := Option.isSome_iff_exists.mp hb
  have hn := scanDigits_of_refusedAt dec hm
  rw [← scanLines_eq_scanDigits] at hn
  rw [run_checkCallAipuTool_exited hos dec hexe hbs hl,
    run_bind_error (run_countErrors_error hos dec (Function.update_same _ _ _) (decode_log hbs ht) hn)]
  exact ⟨_,rfl,rfl⟩

theorem checkCallAipuTool_raised_run (dec : DecimalTable) {cmd : List PyStr} {exe : PyStr}
    (hexe : cmd.head? = some exe) {bs : List Byte} (hb : Utf8.encode (header cmd) = some bs) {e : PyExc}
    (hl : ∀ env w, os.launch cmd env w = .raised e) (workDir : PyStr) (w : World) :
    (checkCallAipuTool os dec cmd workDir).run w =
      .error e { w with cwd := absPathOf w.cwd workDir,
                        files := Function.update w.files (logFile (absPathOf w.cwd workDir) exe) (some bs) } := by
  rw [checkCallAipuTool,run_bind_ok (run_enterWorkDir hos workDir w)]
  dsimp only
  rw [run_bind_error (run_runLogged_raised hos hexe hb hl _ _)]

theorem checkCallAipuTool_undecodable (dec : DecimalTable) {cmd : List PyStr} {exe : PyStr}
    (hexe : cmd.head? = some exe) (hb : (Utf8.encode (header cmd)).isSome) {code : ℤ} {out : List Byte}
    {files : PyStr → Option (List Byte)} (hl : ∀ env w, os.launch cmd env w = .exited code out files)
    (ht : Utf8.decode out = none) (workDir : PyStr) (w : World) :
    ∃ w', w'.cwd = absPathOf w.cwd workDir ∧
      (checkCallAipuTool os dec cmd workDir).run w = .error .unicodeDecodeError w' := by
  obtain ⟨bs,hbs⟩ := Option.isSome_iff_exists.mp hb
  have hlog : Utf8.decode (bs ++ out) = none := by
    rw [Utf8.decode_encode_append hbs,ht]
    rfl
  rw [run_checkCallAipuTool_exited hos dec hexe hbs hl,
    run_bind_error (run_countErrors_undecodable hos dec (Function.update_same _ _ _) hlog)]
  exact ⟨_,rfl,rfl⟩

theorem checkCallAipuTool_unencodable (dec : DecimalTable) {cmd : List PyStr} {exe : PyStr}
    (hexe : cmd.head? = some exe) (hb : Utf8.encode (header cmd) = none) (workDir : PyStr) (w : World) :
    ∃ w', w'.cwd = absPathOf w.cwd workDir ∧
      (checkCallAipuTool os dec cmd workDir).run w = .error .unicodeEncodeError w' := by
  rw [checkCallAipuTool,run_bind_ok (run_enterWorkDir hos workDir w)]
  dsimp only
  rw [run_bind_error (run_runLogged_unencodable hos hexe hb _ _)]
  exact ⟨_,rfl,rfl⟩

/-- Every outcome of a call of `check_call_aipu_tool` for a known tool, on an OS whose file
calls succeed. When the tool exits with UTF-8 output and the scan gets to no match that `int()`
refuses, the call returns exactly when the exit code is 0 and no log line reports a positive
number of errors, raises `RuntimeError` otherwise, and in both cases restores the working
directory. Every exception leaves the process in the work directory: the `ValueError` of
`int()` on the first match it refuses with no positive match before it, an exception from
launching the tool, a log that is not UTF-8 and a command line that cannot be encoded. -/
theorem checkCallAipuTool_outcome (dec : DecimalTable) {cmd : List PyStr} {exe tool : PyStr}
    (hexe : cmd.head? = some exe) (htool : exeName2ToolName.lookup exe = some tool) (workDir : PyStr)
    (w : World) :
    (∀ code out files text, (∀ env w, os.launch cmd env w = .exited code out files) →
      (Utf8.encode (header cmd)).isSome → Utf8.decode out = some text →
      (∀ m, ¬RefusedAt dec (logMatches dec (logLines cmd text)) m) →
      ∃ w', w'.cwd = w.cwd ∧ (checkCallAipuTool os dec cmd workDir).run w =
        if code = 0 ∧ ¬ReportsErrors dec (logLines cmd text) then .ok () w'
        else .error (.runtimeError (errorMessage tool (logFile (absPathOf w.cwd workDir) exe))) w') ∧
    (∀ code out files text m, (∀ env w, os.launch cmd env w = .exited code out files) →
      (Utf8.encode (header cmd)).isSome → Utf8.decode out = some text →
      RefusedAt dec (logMatches dec (logLines cmd text)) m →
      ∃ w', w'.cwd = absPathOf w.cwd workDir ∧ (checkCallAipuTool os dec cmd workDir).run w =
        .error (.valueError (intLimitMessage dec.maxStrDigits m.length)) w') ∧
    (∀ e, (∀ env w, os.launch cmd env w = .raised e) → (Utf8.encode (header cmd)).isSome →
      ∃ w', w'.cwd = absPathOf w.cwd workDir ∧ (checkCallAipuTool os dec cmd workDir).run w = .error e w') ∧
    (∀ code out files, (∀ env w, os.launch cmd env w = .exited code out files) →
      (Utf8.encode (header cmd)).isSome → Utf8.decode out = none →
      ∃ w', w'.cwd = absPathOf w.cwd workDir ∧
        (checkCallAipuTool os dec cmd workDir).run w = .error .unicodeDecodeError w') ∧
    (Utf8.encode (header cmd) = none →
      ∃ w', w'.cwd = absPathOf w.cwd workDir ∧
        (checkCallAipuTool os dec cmd workDir).run w = .error .unicodeEncodeError w') := by
  refine ⟨fun _ _ _ _ hl hb ht hr => checkCallAipuTool_exited hos dec hexe htool hb hl ht hr workDir w,
    fun _ _ _ _ _ hl hb ht hm => checkCallAipuTool_refused hos dec hexe hb hl ht hm workDir w,
    fun _ hl hb => ?_,fun _ _ _ hl hb ht => checkCallAipuTool_undecodable hos dec hexe hb hl ht workDir w,
    fun hb => checkCallAipuTool_unencodable hos dec hexe hb workDir w⟩
  obtain ⟨bs,hbs⟩ := Option.isSome_iff_exists.mp hb
  exact ⟨_,rfl,checkCallAipuTool_raised_run hos dec hexe hbs hl workDir w⟩

/-- Whatever the log file held before, once the tool has run and exited the log holds the
UTF-8 command-line header followed by exactly what the tool printed, however the call then ends:
a log left by an earlier run cannot be read as this run's. -/
theorem checkCallAipuTool_log (dec : DecimalTable) {cmd : List PyStr} {exe : PyStr}
    (hexe : cmd.head? = some exe) {bs : List Byte} (hb : Utf8.encode (header cmd) = some bs) {code : ℤ}
    {out : List Byte} {files : PyStr → Option (List Byte)} (hl : ∀ env w, os.launch cmd env w = .exited code out files)
    (workDir : PyStr) (w : World) :
    (finalWorld ((checkCallAipuTool os dec cmd workDir).run w)).files (logFile (absPathOf w.cwd workDir) exe) =
      some (bs ++ out) := by
  have hlog : (Function.update files (logFile (absPathOf w.cwd workDir) exe) (some (bs ++ out)))
      (logFile (absPathOf w.cwd workDir) exe) = some (bs ++ out) := Function.update_same _ _ _
  rw [run_checkCallAipuTool_exited hos dec hexe hb hl]
  cases hd : Utf8.decode (bs ++ out) with
  | none => rw [run_bind_error (run_countErrors_undecodable hos dec hlog hd)]; exact hlog
  | some text =>
    cases hs : scanLines dec 0 (splitLines [] (translateNewlines false text)) with
    | error e => rw [run_bind_error (run_countErrors_error hos dec hlog hd hs)]; exact hlog
    | ok n =>
      rw [run_bind_ok (run_countErrors_ok hos dec hlog hd hs),run_bind_ok (run_leaveWorkDir hos _ _),
        finalWorld_raiseOnError]
      exact hlog

end Runs

/-! ### The working directory -/

/-- Lines 26-30 hand back the working directory they were called in. -/
lemma enterWorkDir_oldCwd {os : Os} {workDir : PyStr} {w w' : World} {p : PyStr × PyStr}
    (h : (enterWorkDir os workDir).run w = .ok p w') : p.2 = w.cwd := by
  obtain ⟨wd,w₁,ha,h₁⟩ := run_bind_eq_ok h
  rw [run_abspath] at ha
  cases ha
  obtain ⟨old,w₂,hc,h₁⟩ := run_bind_eq_ok h₁
  rw [run_getcwd] at hc
  cases hc
  dsimp only at h₁
  split at h₁ <;> obtain ⟨u,w₃,-,h₃⟩ := run_bind_eq_ok h₁
  · obtain ⟨u',w₄,-,h₄⟩ := run_bind_eq_ok h₃
    rw [run_pure] at h₄
    cases h₄
    rfl
  · rw [run_pure] at h₃
    cases h₃
    rfl

/-- Lines 67-68, when they return, leave the process in `old_cwd`. -/
lemma leaveWorkDir_cwd {os : Os} {oldCwd : PyStr} {w w' : World} {u : Unit}
    (h : (leaveWorkDir os oldCwd).run w = .ok u w') : w'.cwd = oldCwd := by
  obtain ⟨cwd,w₁,hc,h₁⟩ := run_bind_eq_ok h
  rw [run_getcwd] at hc
  cases hc
  split at h₁
  next => exact run_chdir_eq_ok os h₁
  next heq =>
    rw [run_pure] at h₁
    cases h₁
    exact (not_not.mp heq).symm

lemma keepsCwd_raiseOnError (exe log : PyStr) (code : ℤ) (n : ℕ) : KeepsCwd (raiseOnError exe log code n) :=
  keepsCwd_of_state fun w _ w' h => by
    have := finalWorld_raiseOnError exe log code n w
    rwa [h] at this

/-- Whenever `check_call_aipu_tool` returns, the process is back in the directory it was called
in, on any OS and whatever the tool did in its work directory. -/
lemma checkCallAipuTool_keepsCwd (os : Os) (dec : DecimalTable) (cmd : List PyStr) (workDir : PyStr) :
    KeepsCwd (checkCallAipuTool os dec cmd workDir) := fun w u w' h => by
  obtain ⟨⟨wd,old⟩,w₁,he,h₁⟩ := run_bind_eq_ok h
  obtain ⟨⟨exe,code⟩,w₂,-,h₂⟩ := run_bind_eq_ok h₁
  obtain ⟨n,w₃,-,h₃⟩ := run_bind_eq_ok h₂
  obtain ⟨u',w₄,hl,h₄⟩ := run_bind_eq_ok h₃
  rw [keepsCwd_raiseOnError _ _ _ _ _ _ _ h₄,leaveWorkDir_cwd hl]
  exact enterWorkDir_oldCwd he

/-- An OS on which every call succeeds and every tool exits with code 0 and prints nothing. -/
def quietOs : Os := ⟨fun _ _ => none,fun _ _ _ => .exited 0 [] fun _ => none⟩

/-- An OS on which every call succeeds and every tool prints `Total errors: 2` and exits with
code 0. -/
def reportingOs : Os :=
  ⟨fun _ _ => none,fun _ _ _ => .exited 0 ((lit "Total errors: 2\n").map fun c => byte c.val) fun _ => none⟩

/-- An OS on which every file call succeeds and no tool can be found. -/
def missingToolOs : Os := ⟨fun _ _ => none,fun _ _ _ => .raised (.osError (lit "FileNotFoundError"))⟩

/-- A process in `/home` with no files and an empty environment. -/
def homeWorld : World := ⟨lit "/home",fun _ => none,fun _ => none⟩

/-- A process in `/home` whose `/work/aipugb.log` is left from a run that reported errors. -/
def staleWorld : World :=
  ⟨lit "/home",fun p => if p = lit "/work/aipugb.log"
    then some ((lit "Total errors: 5\n").map fun c => byte c.val) else none,fun _ => none⟩

/-- A quiet `aipugb` returns normally over a stale log that reported errors, and one that
prints `Total errors: 2` raises `RuntimeError`; both go back to `/home`. -/
theorem checkCallAipuTool_outcome_aipugb :
    (∃ w', w'.cwd = lit "/home" ∧
      (checkCallAipuTool quietOs .asciiOnly [lit "aipugb"] (lit "/work")).run staleWorld = .ok () w') ∧
    ∃ w', w'.cwd = lit "/home" ∧
      (checkCallAipuTool reportingOs .asciiOnly [lit "aipugb"] (lit "/work")).run staleWorld =
        .error (.runtimeError (errorMessage (lit "GBuilder") (lit "/work/aipugb.log"))) w' := by
  have hexe : [lit "aipugb"].head? = some (lit "aipugb") := rfl
  have htool : exeName2ToolName.lookup (lit "aipugb") = some (lit "GBuilder") := by decide
  have hb : (Utf8.encode (header [lit "aipugb"])).isSome := rfl
  obtain ⟨w₁,h₁,e₁⟩ := (checkCallAipuTool_outcome (show quietOs.NoFault from fun _ _ => rfl) .asciiOnly hexe
    htool (lit "/work") staleWorld).1 0 [] _ [] (fun _ _ => rfl) hb rfl (not_refusedAt_of_forall _ (by decide))
  obtain ⟨w₂,h₂,e₂⟩ := (checkCallAipuTool_outcome (show reportingOs.NoFault from fun _ _ => rfl) .asciiOnly hexe
    htool (lit "/work") staleWorld).1 0 _ _ (lit "Total errors: 2\n") (fun _ _ => rfl) hb rfl
    (not_refusedAt_of_forall _ (by decide))
  rw [if_pos ⟨rfl,by decide⟩] at e₁
  rw [if_neg (by decide)] at e₂
  exact ⟨⟨w₁,h₁,e₁⟩,w₂,h₂,e₂⟩

/-- When `aipuopt` cannot be launched, the `OSError` comes out of `check_call_aipu_tool` as it
is, and the process stays in the work directory. -/
theorem checkCallAipuTool_launch_fails :
    ∃ w', (checkCallAipuTool missingToolOs .asciiOnly [lit "aipuopt"] (lit "/work")).run homeWorld =
      .error (.osError (lit "FileNotFoundError")) w' ∧ w'.cwd = lit "/work" ∧ homeWorld.cwd = lit "/home" := by
  obtain ⟨bs,hbs⟩ : ∃ bs, Utf8.encode (header [lit "aipuopt"]) = some bs := ⟨_,rfl⟩
  have hexe : [lit "aipuopt"].head? = some (lit "aipuopt") := rfl
  have hcwd : absPathOf homeWorld.cwd (lit "/work") = lit "/work" := by decide
  exact ⟨_,checkCallAipuTool_raised_run (show missingToolOs.NoFault from fun _ _ => rfl) .asciiOnly hexe hbs
    (fun _ _ => rfl) _ _,hcwd,rfl⟩

/-- Over a stale log, the log of an `aipugb` that prints `Total errors: 2` holds the command
line and that output, and nothing of the earlier run. -/
theorem checkCallAipuTool_log_stale :
    staleWorld.files (lit "/work/aipugb.log") = some ((lit "Total errors: 5\n").map fun c => byte c.val) ∧
    (finalWorld ((checkCallAipuTool reportingOs .asciiOnly [lit "aipugb"] (lit "/work")).run staleWorld)).files
      (lit "/work/aipugb.log") = some ((header [lit "aipugb"] ++ lit "Total errors: 2\n").map fun c => byte c.val) :=
  ⟨rfl,checkCallAipuTool_log (show reportingOs.NoFault from fun _ _ => rfl) .asciiOnly
    (show [lit "aipugb"].head? = some (lit "aipugb") from rfl) rfl (fun _ _ => rfl) (lit "/work") staleWorld⟩

end AipuTool
end AipuCompass

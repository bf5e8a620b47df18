import AipuCompass.AipuTool
import AipuCompass.UnicodeEscape
import AipuCompass.Decimal

/-! `AIPUOptForwardEngine` of `aipu_compass/engine/opt_forward_engine.py`. `pre_build` gets
the Compass IR of a Relay function, through the AIPU gsim and Optimizer when configured, and
embeds its text and binary as attributes of the function; `create_func_data` writes them
back to disk for the Optimizer's forward interface, decoding the text with
`unicode_escape` first because the Relay parser leaves escapes in it; `run` calls the executor
and, when asked to, dumps every input and output to its own file. None of the three leaves the
process in another working directory when it returns. -/
namespace AipuCompass
namespace OptForwardEngine
open PyM AipuTool

/-- The paths and commands of `AipuCompassFunctionConfig(name)`, whose module is not among
the sources. A path pair is the text and the binary file of one IR, two different files. -/
structure FunctionConfig where
  compassIrPath : PyStr × PyStr
  gsimFloatIrPath : PyStr × PyStr
  quantCompassIrPath : PyStr × PyStr
  useGsimFloat : Bool
  gsimFloatWorkDir : PyStr
  optimizerWorkDir : PyStr
  gsimFloatCmd : List PyStr
  optimizerCmd : List PyStr
  compass_ne : compassIrPath.1 ≠ compassIrPath.2
  quant_ne : quantCompassIrPath.1 ≠ quantCompassIrPath.2

/-- The attributes `compass.pre_build.ir_txt` and `compass.pre_build.ir_bin`. -/
structure PreBuilt where
  irTxt : PyStr
  irBin : List Byte

/-- `FunctionData` with its executor `OptForward(txt_path, bin_path)`. -/
structure FunctionData where
  name : PyStr
  executor : PyStr × PyStr

/-- What the engine takes from its surroundings: the OS, the Unicode database, the function
configurations, the Compass code generator and `relative_symlink_in_dir`. -/
structure Env where
  os : Os
  dec : DecimalTable
  lookup : List Byte → Option CodePoint
  config : PyStr → FunctionConfig
  gen2file : PyStr → PyStr × PyStr → PyM Unit
  symlinkInDir : PyStr × PyStr → PyStr → PyM Unit

variable (E : Env)

/-- Lines 45-62 of `pre_build`: generate the Compass IR, run gsim and the Optimizer as
configured, and give the path of the last IR made. -/
def buildIr (isQuant : Bool) (name : PyStr) : PyM (PyStr × PyStr) := do
  let cfg := E.config name
  E.gen2file name cfg.compassIrPath
  let mut irPath := cfg.compassIrPath
  if cfg.useGsimFloat then
    E.symlinkInDir cfg.compassIrPath cfg.gsimFloatWorkDir
    checkCallAipuTool E.os E.dec cfg.gsimFloatCmd cfg.gsimFloatWorkDir
    irPath := cfg.gsimFloatIrPath
  if isQuant then
    let floatIrPath := if cfg.useGsimFloat then cfg.gsimFloatIrPath else cfg.compassIrPath
    E.symlinkInDir floatIrPath cfg.optimizerWorkDir
    checkCallAipuTool E.os E.dec cfg.optimizerCmd cfg.optimizerWorkDir
    irPath := cfg.quantCompassIrPath
  pure irPath

/-- The `str` that `func.with_attr` keeps and `func.attrs` gives back: TVM's FFI hands it over
as a NUL-terminated `char *`, so it ends before the first NUL. -/
def attrStr (s : PyStr) : PyStr := s.takeWhile (· != 0)

/-- `pre_build(func)` for the function named `name`. -/
def preBuild (isQuant : Bool) (name : PyStr) : PyM PreBuilt := do
  let (txtPath,binPath) ← buildIr E isQuant name
  let irTxt ← readText E.os txtPath
  let irBin ← readBytes E.os binPath
  pure ⟨attrStr irTxt,irBin⟩

/-- `ir_txt.encode("utf-8").decode("unicode_escape")`. -/
def unescape (irTxt : PyStr) : PyM PyStr :=
  match Utf8.encode irTxt with
  | none => throw .unicodeEncodeError
  | some bs =>
    match UnicodeEscape.decode E.lookup bs with
    | some s => pure s
    | none => throw .unicodeDecodeError

/-- The IR files `create_func_data` writes: the quantized IR's when quantizing. -/
def irPathOf (isQuant : Bool) (cfg : FunctionConfig) : PyStr × PyStr :=
  if isQuant then cfg.quantCompassIrPath else cfg.compassIrPath

/-- `create_func_data(func)` for the function named `name` with attributes `attrs`. -/
def createFuncData (isQuant : Bool) (name : PyStr) (attrs : PreBuilt) : PyM FunctionData := do
  let cfg := E.config name
  let (txtPath,binPath) := irPathOf isQuant cfg
  let irTxt ← unescape E attrs.irTxt
  let irBin := attrs.irBin
  makedirs E.os (dirname txtPath)
  openWrite E.os txtPath
  writeText txtPath irTxt
  makedirs E.os (dirname binPath)
  openWrite E.os binPath
  append binPath irBin
  pure ⟨name,(txtPath,binPath)⟩


/-! ### `create_func_data` -/

lemma irPathOf_ne (isQuant : Bool) (cfg : FunctionConfig) : (irPathOf isQuant cfg).1 ≠ (irPathOf isQuant cfg).2 := by
  cases isQuant
  · exact cfg.compass_ne
  · exact cfg.quant_ne

lemma run_unescape {t : PyStr} {bs : List Byte} {s : PyStr} (hb : Utf8.encode t = some bs)
    (hs : UnicodeEscape.decode E.lookup bs = some s) (w : World) : (unescape E t).run w = .ok s w := by
  simp only [unescape,hb,hs]; rfl

/-- The bytes of ASCII text, and none of them is a backslash when the text has none. -/
lemma encode_plain {t : PyStr} (h : ∀ c ∈ t, Plain c) :
    Utf8.encode t = some (t.map fun c => byte c.val) ∧ ∀ b ∈ t.map (fun c => byte c.val), b.val ≠ 0x5C := by
  refine ⟨Utf8.encode_of_ascii fun c hc => (h c hc).1,?_⟩
  intro b hb
  obtain ⟨c,hc,rfl⟩ := List.mem_map.mp hb
  have ⟨h1,h2⟩ := h c hc
  have h3 : c.val ≠ 92 := fun h => h2 (Fin.ext h)
  simp only [byte_val]; omega

lemma latin1_byte_map {t : PyStr} (h : ∀ c ∈ t, c.val < 0x80) :
    (t.map fun c => byte c.val).map Byte.latin1 = t := by
  rw [List.map_map]
  conv_rhs => rw [← List.map_id t]
  refine List.map_congr_left fun c hc => ?_
  ext; simp only [Function.comp,Byte.latin1_val,byte_val,id]; have := h c hc; omega

lemma run_unescape_plain {t : PyStr} (h : ∀ c ∈ t, Plain c) (w : World) :
    (unescape E t).run w = .ok t w := by
  obtain ⟨he,hb⟩ := encode_plain h
  refine run_unescape E he ?_ w
  rw [UnicodeEscape.decode_of_no_backslash E.lookup hb,latin1_byte_map fun c hc => (h c hc).1]

theorem run_createFuncData (hos : E.os.NoFault) (isQuant : Bool) (name : PyStr) (attrs : PreBuilt)
    {w : World} {s : PyStr} {bs : List Byte} (hs : (unescape E attrs.irTxt).run w = .ok s w)
    (hbs : Utf8.encode s = some bs) :
    (createFuncData E isQuant name attrs).run w =
      .ok ⟨name,irPathOf isQuant (E.config name)⟩
        { w with files := (Function.update (Function.update w.files (irPathOf isQuant (E.config name)).1 (some bs))
            (irPathOf isQuant (E.config name)).2 (some attrs.irBin)) } := by
  have hf : ∀ w c, E.os.fault w c = none := hos
  rw [createFuncData]
  simp only [makedirs]
  rw [run_bind_ok hs,run_bind_ok (run_osCall_of_none _ (hf _ _)),run_bind_ok (run_openWrite _ (hf _ _)),
    run_bind_ok (run_writeText hbs _),run_bind_ok (run_osCall_of_none _ (hf _ _)),
    run_bind_ok (run_openWrite _ (hf _ _)),run_bind_ok (run_append _ _ _),run_pure]
  simp [Function.update_idem]

/-- The text file `create_func_data` leaves holds the UTF-8 bytes of the unescaped text. -/
lemma createFuncData_text {isQuant : Bool} {name : PyStr} {attrs : PreBuilt} {w : World} {s : PyStr}
    (hos : E.os.NoFault) (hs : (unescape E attrs.irTxt).run w = .ok s w) (hbs : (Utf8.encode s).isSome) :
    ∃ w', (createFuncData E isQuant name attrs).run w = .ok ⟨name,irPathOf isQuant (E.config name)⟩ w' ∧
      w'.files (irPathOf isQuant (E.config name)).1 = Utf8.encode s := by
  obtain ⟨bs,hb⟩ := Option.isSome_iff_exists.mp hbs
  refine ⟨_,run_createFuncData E hos isQuant name attrs hs hb,?_⟩
  simp only [Function.update_noteq (irPathOf_ne isQuant _),Function.update_same,hb]

lemma unescape_backslash_n {t₁ t₂ : PyStr} (h : ∀ c ∈ t₁ ++ t₂, Plain c) (w : World) :
    (unescape E (t₁ ++ lit "\\n" ++ t₂)).run w = .ok (t₁ ++ [lf] ++ t₂) w := by
  have h₁ := encode_plain fun c hc => h c (List.mem_append_left _ hc)
  have h₂ := encode_plain fun c hc => h c (List.mem_append_right _ hc)
  have he : Utf8.encode (t₁ ++ lit "\\n" ++ t₂) =
      some (t₁.map (fun c => byte c.val) ++ [0x5C,0x6E] ++ t₂.map fun c => byte c.val) := by
    rw [Utf8.encode_of_ascii]
    · have hl : (lit "\\n").map (fun c => byte c.val) = [0x5C,0x6E] := by decide
      rw [List.map_append,List.map_append,hl]
    · have hn : ∀ c ∈ lit "\\n", c.val < 0x80 := by simp [lit]; decide
      intro c hc
      simp only [List.mem_append] at hc
      rcases hc with (hc | hc) | hc
      · exact (h c (List.mem_append_left _ hc)).1
      · exact hn c hc
      · exact (h c (List.mem_append_right _ hc)).1
  refine run_unescape E he ?_ w
  rw [List.append_assoc,UnicodeEscape.decode_append_of_no_backslash E.lookup h₁.2,List.cons_append,
    List.cons_append,List.nil_append,UnicodeEscape.decode_backslash_n,
    UnicodeEscape.decode_of_no_backslash E.lookup h₂.2,latin1_byte_map fun c hc => (h c (List.mem_append_left _ hc)).1,
    latin1_byte_map fun c hc => (h c (List.mem_append_right _ hc)).1]
  simp

/-- One function `f` whose IR files are `/ir/f.txt` and `/ir/f.bin`, with no gsim or
Optimizer run. -/
def sampleConfig : FunctionConfig where
  compassIrPath := (lit "/ir/f.txt",lit "/ir/f.bin")
  gsimFloatIrPath := (lit "/ir/gsim.txt",lit "/ir/gsim.bin")
  quantCompassIrPath := (lit "/ir/quant.txt",lit "/ir/quant.bin")
  useGsimFloat := false
  gsimFloatWorkDir := lit "/gsim"
  optimizerWorkDir := lit "/opt"
  gsimFloatCmd := [lit "aipugsim"]
  optimizerCmd := [lit "aipuopt"]
  compass_ne := by decide
  quant_ne := by decide

/-- An engine whose file-system calls all succeed. -/
def sampleEnv : Env where
  os := ⟨fun _ _ => none,fun _ _ _ => .exited 0 [] fun _ => none⟩
  dec := .asciiOnly
  lookup _ := none
  config _ := sampleConfig
  gen2file _ _ := pure ()
  symlinkInDir _ _ := pure ()

/-- A process whose IR text file holds `txt`. -/
def sampleWorld (txt : List Byte) : World :=
  ⟨lit "/",fun p => if p = lit "/ir/f.txt" then some txt else if p = lit "/ir/f.bin" then some [] else none,
    fun _ => none⟩

/-- What `create_func_data` writes to the IR text file: an ASCII attribute with no backslash
comes back unchanged, and a `\n` escape between two such texts comes back as a newline. -/
theorem createFuncData_irTxt (hos : E.os.NoFault) (isQuant : Bool) (name : PyStr) (irBin : List Byte)
    (w : World) :
    (∀ t, (∀ c ∈ t, Plain c) → ∃ w', (createFuncData E isQuant name ⟨t,irBin⟩).run w =
      .ok ⟨name,irPathOf isQuant (E.config name)⟩ w' ∧
      w'.files (irPathOf isQuant (E.config name)).1 = Utf8.encode t) ∧
    (∀ t₁ t₂, (∀ c ∈ t₁ ++ t₂, Plain c) →
      ∃ w', (createFuncData E isQuant name ⟨t₁ ++ lit "\\n" ++ t₂,irBin⟩).run w =
        .ok ⟨name,irPathOf isQuant (E.config name)⟩ w' ∧
        w'.files (irPathOf isQuant (E.config name)).1 = Utf8.encode (t₁ ++ [lf] ++ t₂)) := by
  refine ⟨fun t h => createFuncData_text E hos (run_unescape_plain E h w) ?_,
    fun t₁ t₂ h => createFuncData_text E hos (unescape_backslash_n E h w) ?_⟩
  · rw [Utf8.encode_of_ascii fun c hc => (h c hc).1]; rfl
  · have hlf : lf.val < 0x80 := by decide
    rw [Utf8.encode_of_ascii]
    · rfl
    · intro c hc
      simp only [List.mem_append,List.mem_singleton] at hc
      rcases hc with (hc | rfl) | hc
      · exact (h c (List.mem_append_left _ hc)).1
      · exact hlf
      · exact (h c (List.mem_append_right _ hc)).1

theorem createFuncData_irTxt_sample : sampleEnv.os.NoFault ∧
    ((∀ t, (∀ c ∈ t, Plain c) → ∃ w', (createFuncData sampleEnv false (lit "f") ⟨t,[]⟩).run (sampleWorld []) =
      .ok ⟨lit "f",irPathOf false (sampleEnv.config (lit "f"))⟩ w' ∧
      w'.files (irPathOf false (sampleEnv.config (lit "f"))).1 = Utf8.encode t) ∧
    (∀ t₁ t₂, (∀ c ∈ t₁ ++ t₂, Plain c) →
      ∃ w', (createFuncData sampleEnv false (lit "f") ⟨t₁ ++ lit "\\n" ++ t₂,[]⟩).run (sampleWorld []) =
        .ok ⟨lit "f",irPathOf false (sampleEnv.config (lit "f"))⟩ w' ∧
        w'.files (irPathOf false (sampleEnv.config (lit "f"))).1 = Utf8.encode (t₁ ++ [lf] ++ t₂))) :=
  ⟨fun _ _ => rfl,createFuncData_irTxt sampleEnv (fun _ _ => rfl) false (lit "f") [] (sampleWorld [])⟩

theorem createFuncData_rewrites_backslash_n :
    (preBuild sampleEnv false (lit "f")).run (sampleWorld [0x5C,0x6E]) =
      .ok ⟨lit "\\n",[]⟩ (sampleWorld [0x5C,0x6E]) ∧
    ∃ w', (createFuncData sampleEnv false (lit "f") ⟨lit "\\n",[]⟩).run (sampleWorld [0x5C,0x6E]) =
        .ok ⟨lit "f",(lit "/ir/f.txt",lit "/ir/f.bin")⟩ w' ∧
      w'.files (lit "/ir/f.txt") = some [0x0A] ∧ Utf8.encode (lit "\\n") = some [0x5C,0x6E] := by
  obtain ⟨w',hw,hf⟩ := @createFuncData_text sampleEnv false (lit "f") ⟨lit "\\n",[]⟩ (sampleWorld [0x5C,0x6E])
    [lf] (fun _ _ => rfl) rfl rfl
  exact ⟨rfl,w',hw,hf,rfl⟩

/-! ### `pre_build` then `create_func_data` -/

/-- A NumPy array as `tofile` writes it: the name of its dtype and its bytes. -/
structure Tensor where
  dtype : PyStr
  bytes : List Byte

/-- What `run` takes from its surroundings, whose modules are not among the sources: the
executor `OptForward(txt_path, bin_path)` that `create_func_data` made, the `runtime` section of
`AipuCompassConfig.get()` and the GBuilder work directory of `AipuCompassFunctionConfig(name)`. -/
structure RunEnv where
  forward : PyStr × PyStr → List Tensor → PyM (List Tensor)
  forwardWithQuantizedData : PyStr × PyStr → List Tensor → PyM (List Tensor)
  runtime : PyStr → Option PyStr
  gbuilderWorkDir : PyStr → PyStr

variable (R : RunEnv)

/-- `arr.tofile(path)`. -/
def tofile (path : PyStr) (t : Tensor) : PyM Unit := do
  openWrite E.os path
  append path t.bytes

/-- `f"{work_dir}/{kind}{i}_{arr.dtype}.bin"`. -/
def dumpPath (workDir kind : PyStr) (i : ℕ) (dtype : PyStr) : PyStr :=
  workDir ++ lit "/" ++ kind ++ lit (toString i) ++ lit "_" ++ dtype ++ lit ".bin"

/-- `for i, arr in enumerate(arrs): arr.tofile(...)`, counting from `i`. -/
def dumpAll (workDir kind : PyStr) : ℕ → List Tensor → PyM Unit
  | _,[] => pure ()
  | i,t :: ts => do
    tofile E (dumpPath workDir kind i t.dtype) t
    dumpAll workDir kind (i+1) ts

/-- `run(func_data, args)`: the executor's forward pass, and with quantization and the runtime
option `dump` set to `"true"`, every input and output written to the GBuilder work directory. -/
def run (isQuant : Bool) (funcData : FunctionData) (args : List Tensor) : PyM (List Tensor) := do
  if isQuant then
    let ret ← R.forwardWithQuantizedData funcData.executor args
    match R.runtime (lit "dump") with
    | none => throw (.keyError (lit "dump"))
    | some dump =>
      if dump = lit "true" then
        let workDir := R.gbuilderWorkDir funcData.name
        makedirs E.os workDir
        dumpAll E workDir (lit "input") 0 args
        dumpAll E workDir (lit "output") 0 ret
      pure ret
  else R.forward funcData.executor args

lemma run_tofile (hos : E.os.NoFault) (path : PyStr) (t : Tensor) (w : World) :
    (tofile E path t).run w = .ok () { w with files := Function.update w.files path (some t.bytes) } := by
  rw [tofile,openWrite,run_bind_ok (run_osCall_of_none E.os (hos _ _)),run_append]
  simp only [Function.update_same,Option.getD_some,List.nil_append,Function.update_idem]

open Decimal in
/-- Two dump files of one kind are one file only for the same index and dtype. -/
lemma dumpPath_inj {workDir kind : PyStr} {i j : ℕ} {d d' : PyStr}
    (h : dumpPath workDir kind i d = dumpPath workDir kind j d') : i = j ∧ d = d' := by
  simp only [dumpPath,List.append_assoc,List.append_cancel_left_eq] at h
  have hsep : lit "_" = [⟨95,by decide⟩] := rfl
  rw [hsep,List.singleton_append,List.singleton_append] at h
  obtain ⟨rfl,hd⟩ := toString_append_inj (by decide) h
  exact ⟨rfl,List.append_cancel_right hd⟩

/-- An input's dump file is never an output's. -/
lemma dumpPath_input_ne_output (workDir : PyStr) (i j : ℕ) (d d' : PyStr) :
    dumpPath workDir (lit "input") i d ≠ dumpPath workDir (lit "output") j d' := by
  intro h
  simp only [dumpPath,List.append_assoc,List.append_cancel_left_eq] at h
  have := congrArg List.head? h
  rw [List.head?_append_of_ne_nil _ (by decide),List.head?_append_of_ne_nil _ (by decide)] at this
  exact absurd this (by decide)

/-- The dump loop writes each array to its own file and leaves every other file as it was. -/
lemma run_dumpAll (hos : E.os.NoFault) (workDir kind : PyStr) (ts : List Tensor) (i : ℕ) (w : World) :
    ∃ files, (dumpAll E workDir kind i ts).run w = .ok () { w with files := files } ∧
      (∀ k t, ts[k]? = some t → files (dumpPath workDir kind (i+k) t.dtype) = some t.bytes) ∧
      ∀ p, (∀ k t, ts[k]? = some t → p ≠ dumpPath workDir kind (i+k) t.dtype) → files p = w.files p := by
  induction ts generalizing i w with
  | nil => exact ⟨w.files,rfl,fun _ _ h => by simp at h,fun _ _ => rfl⟩
  | cons t ts ih =>
    obtain ⟨files,hrun,hw,hf⟩ :=
      ih (i+1) { w with files := Function.update w.files (dumpPath workDir kind i t.dtype) (some t.bytes) }
    refine ⟨files,by rw [dumpAll,run_bind_ok (run_tofile E hos _ t w),hrun],fun k u hk => ?_,fun p hp => ?_⟩
    · cases k with
      | zero =>
        obtain rfl : t = u := Option.some.inj (List.getElem?_cons_zero.symm.trans hk)
        rw [hf _ fun k v _ he => by have := (dumpPath_inj he).1; omega]
        exact Function.update_same _ _ _
      | succ k =>
        rw [List.getElem?_cons_succ] at hk
        rw [show i+(k+1) = i+1+k by omega,hw k u hk]
    · rw [hf p fun k v hk he => hp (k+1) v (by rw [List.getElem?_cons_succ]; exact hk)
        (by rw [he,show i+1+k = i+(k+1) by omega])]
      exact Function.update_noteq (hp 0 t List.getElem?_cons_zero) _ _

/-- With quantization and the runtime option `dump` set to `"true"`, `run` returns what the
executor's forward pass returned, and afterwards every input and every output can be read back
byte for byte from its own file `input{i}_{dtype}.bin` or `output{i}_{dtype}.bin` in the
GBuilder work directory: no dump file overwrites another, and no other file changes. -/
theorem run_dump (hos : E.os.NoFault) {funcData : FunctionData} {args ret : List Tensor} {w w' : World}
    (h : (run E R true funcData args).run w = .ok ret w') (hdump : R.runtime (lit "dump") = some (lit "true")) :
    ∃ w₁, (R.forwardWithQuantizedData funcData.executor args).run w = .ok ret w₁ ∧ w'.cwd = w₁.cwd ∧
      (∀ k t, args[k]? = some t →
        w'.files (dumpPath (R.gbuilderWorkDir funcData.name) (lit "input") k t.dtype) = some t.bytes) ∧
      (∀ k t, ret[k]? = some t →
        w'.files (dumpPath (R.gbuilderWorkDir funcData.name) (lit "output") k t.dtype) = some t.bytes) ∧
      ∀ p, (∀ k t, args[k]? = some t → p ≠ dumpPath (R.gbuilderWorkDir funcData.name) (lit "input") k t.dtype) →
        (∀ k t, ret[k]? = some t → p ≠ dumpPath (R.gbuilderWorkDir funcData.name) (lit "output") k t.dtype) →
        w'.files p = w₁.files p := by
  obtain ⟨ret',w₁,hf,h₁⟩ := run_bind_eq_ok h
  simp only [hdump,if_true] at h₁
  obtain ⟨_,w₂,hmk,h₂⟩ := run_bind_eq_ok h₁
  obtain rfl : w₂ = w₁ := by
    rw [makedirs,run_osCall_of_none E.os (hos _ _)] at hmk
    exact (EStateM.Result.ok.inj hmk).2.symm
  obtain ⟨_,w₃,hin,h₃⟩ := run_bind_eq_ok h₂
  obtain ⟨_,w₄,hout,h₄⟩ := run_bind_eq_ok h₃
  obtain ⟨rfl,rfl⟩ := EStateM.Result.ok.inj h₄
  obtain ⟨fi,hi,hiw,hif⟩ := run_dumpAll E hos (R.gbuilderWorkDir funcData.name) (lit "input") args 0 w₂
  obtain ⟨fo,ho,how,hof⟩ := run_dumpAll E hos (R.gbuilderWorkDir funcData.name) (lit "output") ret' 0
    { w₂ with files := fi }
  obtain rfl := (EStateM.Result.ok.inj (hin.symm.trans hi)).2
  obtain rfl := (EStateM.Result.ok.inj (hout.symm.trans ho)).2
  refine ⟨w₂,hf,rfl,fun k t hk => ?_,fun k t hk => by simpa using how k t hk,fun p hpi hpo => ?_⟩
  · show fo _ = _
    rw [hof _ fun j u _ he => dumpPath_input_ne_output _ _ _ _ _ he]
    simpa using hiw k t hk
  · show fo p = w₂.files p
    rw [hof p fun k t hk => by simpa using hpo k t hk]
    exact hif p fun k t hk => by simpa using hpi k t hk

/-- An executor that gives its inputs back, with `dump` on and `/gb` as the work directory. -/
def echoRunEnv : RunEnv where
  forward _ args := pure args
  forwardWithQuantizedData _ args := pure args
  runtime k := if k = lit "dump" then some (lit "true") else none
  gbuilderWorkDir _ := lit "/gb"

/-- The function `f` of `sampleConfig`. -/
def sampleFuncData : FunctionData := ⟨lit "f",irPathOf true sampleConfig⟩

/-- Two `int8` arrays, whose dump files differ only in their index. -/
def sampleArgs : List Tensor := [⟨lit "int8",[1,2]⟩,⟨lit "int8",[3]⟩]

/-- The process after `run` has dumped `sampleArgs` twice, as input and as output. -/
def dumpedWorld : World :=
  match (run sampleEnv echoRunEnv true sampleFuncData sampleArgs).run (sampleWorld []) with
  | .ok _ w => w
  | .error _ w => w

lemma run_echo : (run sampleEnv echoRunEnv true sampleFuncData sampleArgs).run (sampleWorld []) =
    .ok sampleArgs dumpedWorld := rfl

theorem run_dump_echo : sampleEnv.os.NoFault ∧
    (run sampleEnv echoRunEnv true sampleFuncData sampleArgs).run (sampleWorld []) = .ok sampleArgs dumpedWorld ∧
    echoRunEnv.runtime (lit "dump") = some (lit "true") ∧
    ∃ w₁, (echoRunEnv.forwardWithQuantizedData sampleFuncData.executor sampleArgs).run (sampleWorld []) =
        .ok sampleArgs w₁ ∧ dumpedWorld.cwd = w₁.cwd ∧
      (∀ k t, sampleArgs[k]? = some t → dumpedWorld.files
        (dumpPath (echoRunEnv.gbuilderWorkDir sampleFuncData.name) (lit "input") k t.dtype) = some t.bytes) ∧
      (∀ k t, sampleArgs[k]? = some t → dumpedWorld.files
        (dumpPath (echoRunEnv.gbuilderWorkDir sampleFuncData.name) (lit "output") k t.dtype) = some t.bytes) ∧
      ∀ p, (∀ k t, sampleArgs[k]? = some t →
          p ≠ dumpPath (echoRunEnv.gbuilderWorkDir sampleFuncData.name) (lit "input") k t.dtype) →
        (∀ k t, sampleArgs[k]? = some t →
          p ≠ dumpPath (echoRunEnv.gbuilderWorkDir sampleFuncData.name) (lit "output") k t.dtype) →
        dumpedWorld.files p = w₁.files p :=
  ⟨fun _ _ => rfl,run_echo,by decide,run_dump sampleEnv echoRunEnv (fun _ _ => rfl) run_echo (by decide)⟩

/-! ### The working directory -/

lemma keepsCwd_unescape (t : PyStr) : KeepsCwd (unescape E t) := by
  unfold unescape
  split
  · exact keepsCwd_throw _
  · split
    · exact keepsCwd_pure _
    · exact keepsCwd_throw _

lemma keepsCwd_createFuncData (isQuant : Bool) (name : PyStr) (attrs : PreBuilt) :
    KeepsCwd (createFuncData E isQuant name attrs) := by
  unfold createFuncData
  exact keepsCwd_bind (keepsCwd_unescape E _) fun _ =>
    keepsCwd_bind (keepsCwd_makedirs _ _) fun _ => keepsCwd_bind (keepsCwd_openWrite _ _) fun _ =>
    keepsCwd_bind (keepsCwd_writeText _ _) fun _ => keepsCwd_bind (keepsCwd_makedirs _ _) fun _ =>
    keepsCwd_bind (keepsCwd_openWrite _ _) fun _ => keepsCwd_bind (keepsCwd_append _ _) fun _ => keepsCwd_pure _

lemma keepsCwd_tofile (path : PyStr) (t : Tensor) : KeepsCwd (tofile E path t) :=
  keepsCwd_bind (keepsCwd_openWrite _ _) fun _ => keepsCwd_append _ _

lemma keepsCwd_dumpAll (workDir kind : PyStr) : ∀ (i : ℕ) (ts : List Tensor), KeepsCwd (dumpAll E workDir kind i ts)
  | _,[] => keepsCwd_pure _
  | i,t :: ts => keepsCwd_bind (keepsCwd_tofile E _ t) fun _ => keepsCwd_dumpAll workDir kind (i+1) ts

lemma keepsCwd_run (hfwd : ∀ ex args, KeepsCwd (R.forward ex args))
    (hquant : ∀ ex args, KeepsCwd (R.forwardWithQuantizedData ex args)) (isQuant : Bool) (funcData : FunctionData)
    (args : List Tensor) : KeepsCwd (run E R isQuant funcData args) := by
  unfold run
  refine keepsCwd_ite (keepsCwd_bind (hquant _ _) fun ret => ?_) (hfwd _ _)
  split
  · exact keepsCwd_throw _
  · dsimp only
    exact keepsCwd_ite (keepsCwd_bind (keepsCwd_makedirs _ _) fun _ => keepsCwd_bind (keepsCwd_dumpAll E _ _ _ _)
      fun _ => keepsCwd_bind (keepsCwd_dumpAll E _ _ _ _) fun _ => keepsCwd_pure _)
      (keepsCwd_bind (keepsCwd_pure _) fun _ => keepsCwd_pure _)

section
variable {E} (hsym : ∀ paths dir, KeepsCwd (E.symlinkInDir paths dir))
include hsym

/-- One tool stage of `pre_build`, then `m`: link the input IR into the tool's work directory
and run the tool there. -/
lemma keepsCwd_stage (paths : PyStr × PyStr) (cmd : List PyStr) (dir : PyStr) {α : Type} {m : PyM α}
    (hm : KeepsCwd m) :
    KeepsCwd (do E.symlinkInDir paths dir; checkCallAipuTool E.os E.dec cmd dir; pure PUnit.unit; m) :=
  keepsCwd_bind (hsym _ _) fun _ => keepsCwd_bind (checkCallAipuTool_keepsCwd _ _ _ _) fun _ =>
    keepsCwd_bind (keepsCwd_pure _) fun _ => hm

lemma keepsCwd_buildIr (hgen : ∀ name paths, KeepsCwd (E.gen2file name paths)) (isQuant : Bool) (name : PyStr) :
    KeepsCwd (buildIr E isQuant name) := by
  unfold buildIr
  refine keepsCwd_bind (hgen _ _) fun _ => ?_
  dsimp only
  have hopt := fun p => keepsCwd_stage hsym p (E.config name).optimizerCmd (E.config name).optimizerWorkDir
    (keepsCwd_pure (E.config name).quantCompassIrPath)
  split
  · exact keepsCwd_stage hsym _ _ _ (keepsCwd_ite (hopt _) (keepsCwd_bind (keepsCwd_pure _) fun _ => keepsCwd_pure _))
  · exact keepsCwd_bind (keepsCwd_pure _) fun _ =>
      keepsCwd_ite (hopt _) (keepsCwd_bind (keepsCwd_pure _) fun _ => keepsCwd_pure _)

lemma keepsCwd_preBuild (hgen : ∀ name paths, KeepsCwd (E.gen2file name paths)) (isQuant : Bool) (name : PyStr) :
    KeepsCwd (preBuild E isQuant name) :=
  keepsCwd_bind (keepsCwd_buildIr hsym hgen isQuant name) fun _ =>
    keepsCwd_bind (keepsCwd_readText _ _) fun _ => keepsCwd_bind (keepsCwd_readBytes _ _) fun _ => keepsCwd_pure _

end

/-- Whenever `pre_build`, `create_func_data` or `run` returns, the process is in the working
directory it was called in, provided the code generator, `relative_symlink_in_dir` and the
executor leave it there: the tool runs of `pre_build` return to it whatever the OS does, and
nothing else the engine calls moves it. -/
theorem engine_keepsCwd (hgen : ∀ name paths, KeepsCwd (E.gen2file name paths))
    (hsym : ∀ paths dir, KeepsCwd (E.symlinkInDir paths dir)) (hfwd : ∀ ex args, KeepsCwd (R.forward ex args))
    (hquant : ∀ ex args, KeepsCwd (R.forwardWithQuantizedData ex args)) :
    (∀ isQuant name, KeepsCwd (preBuild E isQuant name)) ∧
    (∀ isQuant name attrs, KeepsCwd (createFuncData E isQuant name attrs)) ∧
    (∀ isQuant funcData args, KeepsCwd (run E R isQuant funcData args)) :=
  ⟨keepsCwd_preBuild hsym hgen,keepsCwd_createFuncData E,keepsCwd_run E R hfwd hquant⟩

theorem engine_keepsCwd_sample :
    (∀ name paths, KeepsCwd (sampleEnv.gen2file name paths)) ∧
    (∀ paths dir, KeepsCwd (sampleEnv.symlinkInDir paths dir)) ∧
    (∀ ex args, KeepsCwd (echoRunEnv.forward ex args)) ∧
    (∀ ex args, KeepsCwd (echoRunEnv.forwardWithQuantizedData ex args)) ∧
    (∀ isQuant name, KeepsCwd (preBuild sampleEnv isQuant name)) ∧
    (∀ isQuant name attrs, KeepsCwd (createFuncData sampleEnv isQuant name attrs)) ∧
    (∀ isQuant funcData args, KeepsCwd (run sampleEnv echoRunEnv isQuant funcData args)) :=
  have hp : ∀ {α : Type} (a : α), KeepsCwd (pure a : PyM α) := keepsCwd_pure
  ⟨fun _ _ => hp _,fun _ _ => hp _,fun _ args => hp args,fun _ args => hp args,
    engine_keepsCwd sampleEnv echoRunEnv (fun _ _ => hp _) (fun _ _ => hp _) (fun _ args => hp args)
      (fun _ args => hp args)⟩

end OptForwardEngine
end AipuCompass

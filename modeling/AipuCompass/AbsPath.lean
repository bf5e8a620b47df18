import AipuCompass.Os

/-! `abspath(path, base_dir)` of `tvm/aipu/utils.py`: expand `~` and environment variables,
then make the path absolute with `os.path.abspath`, joining a relative one to `base_dir` or to
the working directory. `os.path.expanduser` and `os.path.expandvars` are modelled after
CPython's `posixpath`, the password database being a parameter. Run from an absolute working
directory, the function gives a path in `normpath`'s normal form: a root of one or two
slashes and components joined by single slashes, none of them empty, `.` or `..`; and a path
in that form with no `$` is given back unchanged, so a result is a fixed point. -/
namespace AipuCompass

/-- `'~'` -/
def tilde : CodePoint := 126

/-- `'$'` -/
def dollar : CodePoint := 36

/-- `'{'` -/
def lbrace : CodePoint := 123

/-- `'}'` -/
def rbrace : CodePoint := 125

/-- A code point that UTF-8 with `surrogateescape` cannot encode: a lone surrogate other than
`U+DC80`-`U+DCFF`, which stand for the bytes `80`-`FF` the OS gave. -/
def Unescapable (c : CodePoint) : Prop := 0xD800 ≤ c.val ∧ c.val < 0xE000 ∧ ¬(0xDC80 ≤ c.val ∧ c.val < 0xDD00)

instance (c : CodePoint) : Decidable (Unescapable c) := inferInstanceAs (Decidable (_ ∧ _ ∧ _))

/-- Text the OS can take back: what `os.fsencode` encodes without raising. Every text the OS
gives Python, decoded with `surrogateescape`, is such text. -/
def FsText (s : PyStr) : Prop := ∀ c ∈ s, ¬Unescapable c

instance (s : PyStr) : Decidable (FsText s) := inferInstanceAs (Decidable (∀ c ∈ s, _))

/-- What `expanduser` reads from the password database: `pwd.getpwuid(os.getuid()).pw_dir`
and, for each name, `pwd.getpwnam(name).pw_dir`, `none` where the lookup raises `KeyError`.
The directories come from the OS. -/
structure PwdDb where
  currentHome : Option PyStr
  home : PyStr → Option PyStr
  currentHome_fs : ∀ h, currentHome = some h → FsText h
  home_fs : ∀ n h, home n = some h → FsText h

/-- `pwd.getpwnam(name).pw_dir`, `none` for `KeyError`. `PyUnicode_FSConverter` first encodes
the name with `surrogateescape` and then refuses a NUL. -/
def PwdDb.getpwnam (pwd : PwdDb) (name : PyStr) : Except PyExc (Option PyStr) :=
  if ∃ c ∈ name, Unescapable c then .error .unicodeEncodeError
  else if 0 ∈ name then .error (.valueError (lit "embedded null byte"))
  else .ok (pwd.home name)

/-- Where the `~` or `~name` that `expanduser` replaces ends: at the first slash after the
tilde, or at the end of the path. -/
def tildeEnd (path : PyStr) : ℕ :=
  match (path.drop 1).findIdx? (· = slash) with
  | some k => k+1
  | none => path.length

/-- The home directory for `path[:i]`: `HOME`, else the password entry of the current user, for
a lone `~`; the password entry of `name` for `~name`. -/
def userHome (pwd : PwdDb) (environ : PyStr → Option PyStr) (path : PyStr) (i : ℕ) :
    Except PyExc (Option PyStr) :=
  if i = 1 then pure (match environ (lit "HOME") with
    | some h => some h
    | none => pwd.currentHome)
  else pwd.getpwnam ((path.take i).drop 1)

/-- `posixpath.expanduser(path)`: a leading `~` or `~name` up to the first slash becomes the
home directory without its trailing slashes; the path is left as it is where there is none. -/
def expanduser (pwd : PwdDb) (environ : PyStr → Option PyStr) (path : PyStr) : Except PyExc PyStr :=
  if path.head? ≠ some tilde then pure path else do
  let i := tildeEnd path
  let userhome ← userHome pwd environ path i
  pure (match userhome with
    | none => path
    | some userhome =>
      let r := ((userhome.reverse.dropWhile (· = slash)).reverse) ++ path.drop i
      if r = [] then [slash] else r)

/-- `\w` of a pattern compiled with `re.ASCII`. -/
def isWordChar (c : CodePoint) : Bool :=
  (48 ≤ c.val ∧ c.val ≤ 57) ∨ (65 ≤ c.val ∧ c.val ≤ 90) ∨ (97 ≤ c.val ∧ c.val ≤ 122) ∨ c.val = 95

/-- A match of `(\w+|\{[^}]*\})` right after a `$`: the text it covers and the variable's name,
or `none` where the pattern does not match there. -/
def varRef : PyStr → Option (PyStr × PyStr)
  | [] => none
  | c :: t =>
    if isWordChar c then some ((c :: t).takeWhile isWordChar,(c :: t).takeWhile isWordChar)
    else if c = lbrace ∧ rbrace ∈ t then
      some (lbrace :: t.takeWhile (· ≠ rbrace) ++ [rbrace],t.takeWhile (· ≠ rbrace))
    else none

/-- `os.environ[name]`, `none` for `KeyError`: the key is encoded with `surrogateescape` first. -/
def environItem (environ : PyStr → Option PyStr) (name : PyStr) : Except PyExc (Option PyStr) :=
  if ∃ c ∈ name, Unescapable c then .error .unicodeEncodeError else .ok (environ name)

/-- The loop of `expandvars` from the left, `skip` characters of the last match being still to
pass over: a set variable is replaced by its value and the scan goes on after the match, so a
value is never scanned again; an unset one is left as it is. -/
def expandFrom (environ : PyStr → Option PyStr) : ℕ → PyStr → Except PyExc PyStr
  | _,[] => pure []
  | skip+1,_ :: s => expandFrom environ skip s
  | 0,c :: s =>
    match (if c = dollar then varRef s else none) with
    | some (text,name) => do
      let value ← environItem environ name
      let rest ← expandFrom environ text.length s
      pure (value.getD (dollar :: text) ++ rest)
    | none => (c :: ·) <$> expandFrom environ 0 s

/-- `posixpath.expandvars(path)`. -/
def expandvars (environ : PyStr → Option PyStr) (path : PyStr) : Except PyExc PyStr :=
  if dollar ∉ path then pure path else expandFrom environ 0 path

example : expandvars (fun n => if n = lit "A" then some (lit "$B") else none) (lit "x/${A}/$B/$") =
    .ok (lit "x/$B/$B/$") := rfl

/-- A password database with no entries. -/
def emptyPwd : PwdDb := ⟨none,fun _ => none,fun _ h => Option.noConfusion h,fun _ _ h => Option.noConfusion h⟩

example : expanduser emptyPwd (fun _ => none) (lit "~a" ++ [0] ++ lit "b/x") =
    .error (.valueError (lit "embedded null byte")) := rfl

example : expandvars (fun _ => none) ([dollar,lbrace,0xD800,rbrace] ++ lit "/x") = .error .unicodeEncodeError :=
  rfl

namespace Utils
open PyM

/-- `base_dir or os.getcwd()`. -/
def baseOr (baseDir : Option PyStr) (cwd : PyStr) : PyStr :=
  match baseDir with
  | some b => if b = [] then cwd else b
  | none => cwd

/-- `abspath(path, base_dir)`, `none` standing for `None`. -/
def abspath (pwd : PwdDb) (path baseDir : Option PyStr) : PyM (Option PyStr) := do
  match path with
  | none => pure none
  | some path =>
    let environ ← getEnviron
    let path ← ofExcept (expanduser pwd environ path >>= expandvars environ)
    if isabs path then
      let path ← PyM.abspath path
      pure (some path)
    else
      let cwd ← getcwd
      let path ← PyM.abspath (baseOr baseDir cwd ++ [slash] ++ path)
      pure (some path)

/-- The path `abspath` gives in process `w` once `path` is expanded to `e`. -/
def pathOf (w : World) (e : PyStr) (baseDir : Option PyStr) : PyStr :=
  absPathOf w.cwd (if isabs e then e else baseOr baseDir w.cwd ++ [slash] ++ e)

lemma run_abspath_ok (pwd : PwdDb) {path e : PyStr} (baseDir : Option PyStr) {w : World}
    (he : (expanduser pwd w.environ path >>= expandvars w.environ) = .ok e) :
    (abspath pwd (some path) baseDir).run w = .ok (some (pathOf w e baseDir)) w := by
  dsimp only [abspath]
  rw [run_bind_ok (run_getEnviron w),he,run_bind_ok (run_ofExcept_ok _ _),pathOf]
  by_cases h : isabs e
  · rw [if_pos h,if_pos h,run_bind_ok (run_abspath _ w),run_pure]
  · rw [if_neg h,if_neg h,run_bind_ok (run_getcwd w),run_bind_ok (run_abspath _ w),run_pure]

lemma run_abspath_error (pwd : PwdDb) {path : PyStr} (baseDir : Option PyStr) {w : World} {x : PyExc}
    (he : (expanduser pwd w.environ path >>= expandvars w.environ) = .error x) :
    (abspath pwd (some path) baseDir).run w = .error x w := by
  dsimp only [abspath]
  rw [run_bind_ok (run_getEnviron w),he,run_bind_error (run_ofExcept_error _ _)]

end Utils

/-! ### The normal form of `normpath` -/

/-- A component `normpath` keeps in a rooted path: not empty, not `.` or `..`, no slash. -/
def NormalComp (c : PyStr) : Prop := c ≠ [] ∧ c ≠ lit "." ∧ c ≠ lit ".." ∧ slash ∉ c

/-- What `normpath` gives for a rooted path: the root `/` or `//` and normal components
joined by single slashes. -/
def IsNormAbs (q : PyStr) : Prop :=
  ∃ root comps, (root = [slash] ∨ root = [slash,slash]) ∧ (∀ c ∈ comps, NormalComp c) ∧
    q = root ++ [slash].intercalate comps

/-- No part `splitOn` cuts holds the separator. -/
lemma not_mem_of_mem_splitOn {a : CodePoint} : ∀ {xs l : PyStr}, l ∈ xs.splitOn a → a ∉ l
  | [],l,h => by simp only [List.splitOn_nil,List.mem_singleton] at h; subst h; exact List.not_mem_nil a
  | x :: xs,l,h => by
    have ih : ∀ {l}, l ∈ xs.splitOn a → a ∉ l := fun h => not_mem_of_mem_splitOn h
    unfold List.splitOn at h ih
    rw [List.splitOnP_cons] at h
    split at h
    · rcases List.mem_cons.mp h with rfl | h
      · exact List.not_mem_nil a
      · exact ih h
    · obtain ⟨hd,tl,he⟩ := List.exists_cons_of_ne_nil (List.splitOnP_ne_nil (· == a) xs)
      rw [he] at h ih
      rcases List.mem_cons.mp h with rfl | h
      · rintro (_ | ⟨_,hm⟩)
        · simp_all
        · exact ih (List.mem_cons_self _ _) hm
      · exact ih (List.mem_cons_of_mem _ h)

/-- In a rooted path, a turn of the loop keeps only normal components: `..` at the root is
dropped rather than kept. -/
lemma normStep_normal {kept : List PyStr} {comp : PyStr} (hk : ∀ c ∈ kept, NormalComp c) (hs : slash ∉ comp) :
    ∀ c ∈ normStep true kept comp, NormalComp c := by
  unfold normStep
  split_ifs with h1 h2
  · exact hk
  · rintro c (_ | ⟨_,hc⟩)
    · refine ⟨fun h => h1 (.inl h),fun h => h1 (.inr h),fun h => ?_,hs⟩
      rcases h2 with h2 | h2 | h2
      · exact h2 h
      · simp at h2
      · obtain ⟨k,ks,rfl⟩ := List.exists_cons_of_ne_nil (fun he : kept = [] => by simp [he] at h2)
        exact (hk k (List.mem_cons_self _ _)).2.2.1 (Option.some.inj h2)
    · exact hk c hc
  · exact fun c hc => hk c (List.mem_of_mem_tail hc)

lemma foldl_normStep_normal {comps kept : List PyStr} (hs : ∀ comp ∈ comps, slash ∉ comp)
    (hk : ∀ c ∈ kept, NormalComp c) : ∀ c ∈ comps.foldl (normStep true) kept, NormalComp c := by
  induction comps generalizing kept with
  | nil => exact hk
  | cons comp comps ih =>
    exact ih (fun c hc => hs c (List.mem_cons_of_mem _ hc)) (normStep_normal hk (hs comp (List.mem_cons_self _ _)))

/-- Normal components all pass the loop. -/
lemma foldl_normStep_of_normal (rooted : Bool) {comps : List PyStr} (h : ∀ c ∈ comps, NormalComp c)
    (kept : List PyStr) : comps.foldl (normStep rooted) kept = comps.reverse ++ kept := by
  induction comps generalizing kept with
  | nil => rfl
  | cons comp comps ih =>
    obtain ⟨h1,h2,h3,-⟩ := h comp (List.mem_cons_self _ _)
    rw [List.foldl_cons,normStep,if_neg (by tauto),if_pos (.inl h3),
      ih (fun c hc => h c (List.mem_cons_of_mem _ hc))]
    simp

lemma splitRoot_root_of_isabs {p : PyStr} (h : isabs p) : (splitRoot p).1 = [slash] ∨ (splitRoot p).1 = [slash,slash] := by
  have hh : p.head? = some slash := by simpa [isabs] using h
  unfold splitRoot
  rw [if_neg (not_not.mpr hh)]
  split_ifs
  · exact .inl rfl
  · exact .inr rfl

/-- `normpath` of a rooted path is in the normal form. -/
lemma normpath_isNormAbs {p : PyStr} (h : isabs p) : IsNormAbs (normpath p) := by
  have hne : p ≠ [] := by rintro rfl; simp [isabs] at h
  have hroot := splitRoot_root_of_isabs h
  have hnorm := @foldl_normStep_normal ((splitRoot p).2.splitOn slash) []
    (fun c hc => not_mem_of_mem_splitOn hc) (by simp)
  have hrne : (splitRoot p).1 ≠ [] := by rcases hroot with h | h <;> simp [h]
  unfold normpath
  rw [if_neg hne]
  dsimp only
  rw [decide_eq_true hrne,if_neg (by simp [hrne])]
  exact ⟨_,_,hroot,fun c hc => hnorm c (List.mem_reverse.mp hc),rfl⟩

lemma isabs_of_isNormAbs {q : PyStr} (h : IsNormAbs q) : isabs q := by
  obtain ⟨root,comps,hr,-,rfl⟩ := h
  rcases hr with rfl | rfl <;> rfl

/-- A path in the normal form splits into its root and the joined components. -/
lemma splitRoot_normAbs {root : PyStr} {comps : List PyStr} (hr : root = [slash] ∨ root = [slash,slash])
    (hc : ∀ c ∈ comps, NormalComp c) :
    splitRoot (root ++ [slash].intercalate comps) = (root,[slash].intercalate comps) := by
  have hhead : ([slash].intercalate comps).get? 0 ≠ some slash := by
    cases comps with
    | nil => decide
    | cons c cs =>
      obtain ⟨hne,-,-,hs⟩ := hc c (List.mem_cons_self _ _)
      obtain ⟨x,xs,rfl⟩ := List.exists_cons_of_ne_nil hne
      obtain ⟨r,hr⟩ : ∃ r, [slash].intercalate ((x :: xs) :: cs) = x :: (xs ++ r) := by
        cases cs <;> exact ⟨_,rfl⟩
      rw [hr]
      exact fun he => hs (by rw [← Option.some.inj he]; exact List.mem_cons_self _ _)
  rcases hr with rfl | rfl
  · unfold splitRoot
    rw [if_neg (by simp),if_pos (.inl hhead)]
    rfl
  · unfold splitRoot
    rw [if_neg (by simp),if_neg fun h => h.elim (fun h1 => h1 rfl) hhead]
    rfl

/-- `normpath` leaves a path in the normal form as it is. -/
lemma normpath_of_isNormAbs {q : PyStr} (h : IsNormAbs q) : normpath q = q := by
  obtain ⟨root,comps,hr,hc,rfl⟩ := h
  have hrne : root ≠ [] := by rcases hr with rfl | rfl <;> simp
  have hparts : (([slash].intercalate comps).splitOn slash).foldl (normStep true) [] = comps.reverse := by
    cases comps with
    | nil => rfl
    | cons c cs =>
      rw [List.splitOn_intercalate (c :: cs) slash (fun l hl => (hc l hl).2.2.2) (List.cons_ne_nil _ _),
        foldl_normStep_of_normal true hc,List.append_nil]
  unfold normpath
  rw [if_neg (by simp [hrne])]
  dsimp only
  rw [splitRoot_normAbs hr hc]
  dsimp only
  rw [decide_eq_true hrne,hparts,List.reverse_reverse,if_neg (by simp [hrne])]

/-- With an absolute working directory, `os.path.abspath` gives the normal form. -/
lemma absPathOf_isNormAbs {cwd : PyStr} (hcwd : isabs cwd) (p : PyStr) : IsNormAbs (PyM.absPathOf cwd p) := by
  unfold PyM.absPathOf
  split
  · exact normpath_isNormAbs ‹_›
  · refine normpath_isNormAbs ?_
    have hne : cwd ≠ [] := by rintro rfl; simp [isabs] at hcwd
    obtain ⟨x,xs,rfl⟩ := List.exists_cons_of_ne_nil hne
    unfold join
    split_ifs <;> simpa [isabs] using hcwd

lemma absPathOf_of_isNormAbs (cwd : PyStr) {q : PyStr} (h : IsNormAbs q) : PyM.absPathOf cwd q = q := by
  rw [PyM.absPathOf,if_pos (isabs_of_isNormAbs h),normpath_of_isNormAbs h]

/-! ### The expansions -/

lemma expanduser_of_isabs (pwd : PwdDb) (environ : PyStr → Option PyStr) {p : PyStr} (h : isabs p) :
    expanduser pwd environ p = .ok p := by
  have hh : p.head? = some slash := by simpa [isabs] using h
  rw [expanduser,if_pos (by rw [hh]; decide)]
  rfl

lemma expandvars_of_not_mem (environ : PyStr → Option PyStr) {p : PyStr} (h : dollar ∉ p) :
    expandvars environ p = .ok p :=
  if_pos h

lemma FsText.append {a b : PyStr} (ha : FsText a) (hb : FsText b) : FsText (a ++ b) := fun c hc =>
  (List.mem_append.mp hc).elim (ha c) (hb c)

/-- Text below the surrogates is text the OS can take. -/
lemma fsText_of_all_lt {s : PyStr} (h : s.all (·.val < 0xD800) = true) : FsText s := fun c hc hu => by
  have := of_decide_eq_true (List.all_eq_true.mp h c hc)
  unfold Unescapable at hu
  omega

lemma FsText.of_subset {a b : PyStr} (hb : FsText b) (h : a ⊆ b) : FsText a := fun c hc => hb c (h hc)

section
variable {environ : PyStr → Option PyStr} {path : PyStr}

/-- A home directory comes from the OS, and a `~name` without NUL or a code point the OS cannot
take is looked up without raising. -/
lemma userHome_ok (pwd : PwdDb) (hpath : FsText path) (hnul : 0 ∉ path)
    (hhome : ∀ h, environ (lit "HOME") = some h → FsText h) (i : ℕ) :
    ∃ u, userHome pwd environ path i = .ok u ∧ ∀ h, u = some h → FsText h := by
  unfold userHome
  split_ifs
  · refine ⟨_,rfl,fun h hu => ?_⟩
    split at hu
    · next h' he => exact Option.some.inj hu ▸ hhome h' he
    · exact pwd.currentHome_fs h hu
  · have hsub : (path.take i).drop 1 ⊆ path := fun c hc => List.mem_of_mem_take (List.mem_of_mem_drop hc)
    rw [PwdDb.getpwnam,if_neg fun ⟨c,hc,hu⟩ => hpath c (hsub hc) hu,if_neg fun h => hnul (hsub h)]
    exact ⟨_,rfl,pwd.home_fs _⟩

/-- Without a NUL or a code point the OS cannot take, `expanduser` raises nothing, and it gives
text the OS can take when `HOME` holds such text. -/
lemma expanduser_ok (pwd : PwdDb) (hpath : FsText path) (hnul : 0 ∉ path)
    (hhome : ∀ h, environ (lit "HOME") = some h → FsText h) :
    ∃ e, expanduser pwd environ path = .ok e ∧ FsText e := by
  unfold expanduser
  split_ifs
  · exact ⟨path,rfl,hpath⟩
  obtain ⟨u,hu,hfs⟩ := userHome_ok pwd hpath hnul hhome (tildeEnd path)
  dsimp only
  refine ⟨_,by rw [hu]; rfl,?_⟩
  cases u with
  | none => exact hpath
  | some h =>
    have hr : FsText ((h.reverse.dropWhile (· = slash)).reverse ++ path.drop (tildeEnd path)) :=
      ((hfs h rfl).of_subset fun c hc => List.mem_reverse.mp ((List.dropWhile_sublist _).subset
        (List.mem_reverse.mp hc))).append (hpath.of_subset fun c => List.mem_of_mem_drop)
    dsimp only
    split_ifs
    · exact fun c hc => by rw [List.mem_singleton.mp hc]; decide
    · exact hr

lemma varRef_name_subset : ∀ {s text name : PyStr}, varRef s = some (text,name) → name ⊆ s
  | c :: t,_,_,h => by
    rw [varRef] at h
    split_ifs at h
    · cases h
      exact (List.takeWhile_prefix _).subset
    · cases h
      exact fun x hx => List.mem_cons_of_mem _ ((List.takeWhile_prefix _).subset hx)

/-- `expandvars` looks up only names taken from the path, so on text the OS can take it raises
nothing. -/
lemma expandFrom_ok (hs : FsText path) : ∀ skip, ∃ e, expandFrom environ skip path = .ok e := by
  induction path with
  | nil => exact fun skip => ⟨[],by cases skip <;> rfl⟩
  | cons c s ih =>
    have hs' : FsText s := hs.of_subset fun x => List.mem_cons_of_mem c
    rintro (_ | skip)
    · rw [expandFrom]
      split
      · next text name heq =>
        have hname : FsText name := by
          split_ifs at heq
          exact hs'.of_subset (varRef_name_subset heq)
        obtain ⟨rest,hr⟩ := ih hs' text.length
        exact ⟨_,by rw [environItem,if_neg fun ⟨x,hx,hu⟩ => hname x hx hu,hr]; rfl⟩
      · obtain ⟨rest,hr⟩ := ih hs' 0
        exact ⟨_,by rw [hr]; rfl⟩
    · exact ih hs' skip

lemma expandvars_ok (hs : FsText path) : ∃ e, expandvars environ path = .ok e := by
  unfold expandvars
  split_ifs
  all_goals first | exact ⟨_,rfl⟩ | exact expandFrom_ok hs 0

end

namespace Utils
open PyM

/-- `abspath` changes nothing in the process, whether it returns or raises. Run from an absolute
working directory on a path with no NUL and no code point the OS cannot take, `HOME` holding
none either, it returns, and it gives a path in `normpath`'s normal form: the root `/` or `//`,
then components joined by single slashes, none of them empty, `.` or `..`. -/
theorem abspath_normal (pwd : PwdDb) (path : PyStr) (baseDir : Option PyStr) (w : World) :
    finalWorld ((abspath pwd (some path) baseDir).run w) = w ∧
    (isabs w.cwd → FsText path → 0 ∉ path → (∀ h, w.environ (lit "HOME") = some h → FsText h) →
      ∃ q, (abspath pwd (some path) baseDir).run w = .ok (some q) w ∧ IsNormAbs q) := by
  constructor
  · cases he : (expanduser pwd w.environ path >>= expandvars w.environ) with
    | ok e => rw [run_abspath_ok pwd baseDir he]; rfl
    | error x => rw [run_abspath_error pwd baseDir he]; rfl
  · intro hcwd hpath hnul hhome
    obtain ⟨e,he,hfs⟩ := expanduser_ok pwd hpath hnul hhome
    obtain ⟨v,hv⟩ : ∃ v, expandvars w.environ e = .ok v := expandvars_ok hfs
    exact ⟨_,run_abspath_ok pwd baseDir (by rw [he]; exact hv),absPathOf_isNormAbs hcwd _⟩

/-- A path `abspath` gives from an absolute working directory is given back unchanged when it
holds no `$`, whatever the working directory, environment, password database and `base_dir` of
the second call. -/
theorem abspath_idem (pwd : PwdDb) (path : PyStr) (baseDir : Option PyStr) (w : World) (hcwd : isabs w.cwd)
    {q : PyStr} (h : (abspath pwd (some path) baseDir).run w = .ok (some q) w) (hq : dollar ∉ q)
    (pwd' : PwdDb) (baseDir' : Option PyStr) (w' : World) :
    (abspath pwd' (some q) baseDir').run w' = .ok (some q) w' := by
  have hn : IsNormAbs q := by
    cases he : (expanduser pwd w.environ path >>= expandvars w.environ) with
    | ok e =>
      rw [run_abspath_ok pwd baseDir he] at h
      exact Option.some.inj (EStateM.Result.ok.inj h).1 ▸ absPathOf_isNormAbs hcwd _
    | error x => rw [run_abspath_error pwd baseDir he] at h; cases h
  have hab := isabs_of_isNormAbs hn
  have he : (expanduser pwd' w'.environ q >>= expandvars w'.environ) = .ok q := by
    rw [expanduser_of_isabs _ _ hab]
    exact expandvars_of_not_mem _ hq
  rw [run_abspath_ok pwd' baseDir' he,pathOf,if_pos hab,absPathOf_of_isNormAbs _ hn]

/-- A process in `/home` whose `HOME` is `/home/u` and in which `A` is `y`. -/
def homeProc : World :=
  ⟨lit "/home",fun _ => none,fun n => if n = lit "HOME" then some (lit "/home/u")
    else if n = lit "A" then some (lit "y") else none⟩

/-- `~/a/./${A}/../c` expands to `/home/u/a/./y/../c` and comes back as `/home/u/a/c`. -/
theorem abspath_normal_home :
    (abspath emptyPwd (some (lit "~/a/./${A}/../c")) none).run homeProc = .ok (some (lit "/home/u/a/c")) homeProc ∧
    finalWorld ((abspath emptyPwd (some (lit "~/a/./${A}/../c")) none).run homeProc) = homeProc ∧
    ∃ q, (abspath emptyPwd (some (lit "~/a/./${A}/../c")) none).run homeProc = .ok (some q) homeProc ∧
      IsNormAbs q :=
  have h := abspath_normal emptyPwd (lit "~/a/./${A}/../c") none homeProc
  ⟨rfl,h.1,h.2 rfl (fsText_of_all_lt rfl) (by decide) fun _ hh => by cases hh; exact fsText_of_all_lt rfl⟩

/-- A `~name` with a NUL makes `abspath` raise the `ValueError` of `pwd.getpwnam`. -/
example : (abspath emptyPwd (some (lit "~a" ++ [0] ++ lit "b/x")) none).run homeProc =
    .error (.valueError (lit "embedded null byte")) homeProc := rfl

lemma abspath_home : (abspath emptyPwd (some (lit "a/./b/../c")) none).run homeProc =
    .ok (some (lit "/home/a/c")) homeProc := rfl

theorem abspath_idem_home : isabs homeProc.cwd ∧
    (abspath emptyPwd (some (lit "a/./b/../c")) none).run homeProc =
      .ok (some (lit "/home/a/c")) homeProc ∧ dollar ∉ lit "/home/a/c" ∧
    (abspath emptyPwd (some (lit "/home/a/c")) (some (lit "/x"))).run homeProc =
      .ok (some (lit "/home/a/c")) homeProc :=
  ⟨rfl,abspath_home,by decide,
    abspath_idem emptyPwd (lit "a/./b/../c") none homeProc rfl abspath_home (by decide)
      emptyPwd (some (lit "/x")) homeProc⟩

end Utils
end AipuCompass

import AipuCompass.Os

/-! `get_rpc_session` of `tvm/aipu/utils.py`: settle the RPC key, the tracker's host and port
and the priority from the arguments and the environment, check the key against
`AIPU_TVM_VALID_RPC_KEYS`, and request a session from the tracker. The key argument wins over
its environment variable; for the other three the environment wins. The tracker itself is not
a parameter that connects or raises and grants a session or raises. `check_remote` makes that
request from a worker and answers `False` only on `TimeoutError`; any other failure raises. -/
namespace AipuCompass
namespace RpcSession
open PyM

/-- The Python values the arguments can hold. -/
inductive PyVal
  | none
  | str (s : PyStr)
  | int (n : ℤ)
  deriving DecidableEq

/-- `bool(v)`. -/
def PyVal.truthy : PyVal → Bool
  | .none => false
  | .str s => !s.isEmpty
  | .int n => n != 0

/-- `a or b`. -/
def PyVal.or (a b : PyVal) : PyVal := if a.truthy then a else b

/-- The parts of Python that `get_rpc_session` calls: `int()`, `repr()` of a `str` and
`str.isspace()` of one character. -/
structure Builtins where
  int : PyVal → Except PyExc ℤ
  repr : PyStr → PyStr
  isSpace : CodePoint → Bool
  int_int : ∀ n, int (.int n) = .ok n

/-- `os.getenv(name)`. -/
def getenv (name : PyStr) : PyM PyVal := fun w => .ok ((w.environ name).elim .none .str) w

/-- `value = first or second` followed by `assert value, message`: the one check each of the
four settings goes through. -/
def resolve (first second : PyVal) (msg : PyStr) : PyM PyVal :=
  if (first.or second).truthy then pure (first.or second) else throw (.assertionError msg)

/-- `rpc_key = rpc_key or os.getenv("AIPU_TVM_RPC_KEY")`: the argument comes first. -/
def resolveRpcKey (rpcKey : PyVal) : PyM PyVal := do
  let env ← getenv (lit "AIPU_TVM_RPC_KEY")
  resolve rpcKey env (lit "Set RPC key through arg or env \"AIPU_TVM_RPC_KEY\".")

/-- `tracker_host = os.getenv("AIPU_TVM_RPC_TRACKER_IP") or tracker_host`. -/
def resolveTrackerHost (trackerHost : PyVal) : PyM PyVal := do
  let env ← getenv (lit "AIPU_TVM_RPC_TRACKER_IP")
  resolve env trackerHost (lit "Set RPC tracker host through arg or env \"AIPU_TVM_RPC_TRACKER_IP\".")

/-- `tracker_port = os.getenv("AIPU_TVM_RPC_TRACKER_PORT") or tracker_port`. -/
def resolveTrackerPort (trackerPort : PyVal) : PyM PyVal := do
  let env ← getenv (lit "AIPU_TVM_RPC_TRACKER_PORT")
  resolve env trackerPort (lit "Set RPC tracker port through arg or env \"AIPU_TVM_RPC_TRACKER_PORT\".")

/-- `priority = os.getenv("AIPU_TVM_RPC_PRIORITY") or priority`. -/
def resolvePriority (priority : PyVal) : PyM PyVal := do
  let env ← getenv (lit "AIPU_TVM_RPC_PRIORITY")
  resolve env priority (lit "Set RPC priority through arg or env \"AIPU_TVM_RPC_PRIORITY\".")

variable (B : Builtins)

/-- `s.strip()`. -/
def strip (s : PyStr) : PyStr := ((s.dropWhile B.isSpace).reverse.dropWhile B.isSpace).reverse

/-- `tuple(x.strip() for x in keys.split("|") if x.strip() != "")`. -/
def validKeys (keys : PyStr) : List PyStr := ((keys.splitOn 124).map (strip B)).filter (· ≠ [])

/-- `repr()` of a tuple of strings. -/
def tupleRepr (keys : List PyStr) : PyStr :=
  lit "(" ++ (lit ", ").intercalate (keys.map B.repr) ++ (if keys.length = 1 then lit ",)" else lit ")")

/-- `str()` of the key. -/
def PyVal.toStr : PyVal → PyStr
  | .none => lit "None"
  | .str s => s
  | .int n => lit (toString n)

/-- `rpc_key in valid_rpc_keys`. -/
def PyVal.In (v : PyVal) (keys : List PyStr) : Prop := ∃ s, v = .str s ∧ s ∈ keys

instance (v : PyVal) (keys : List PyStr) : Decidable (v.In keys) :=
  match v with
  | .str s => decidable_of_iff (s ∈ keys) (by simp [PyVal.In])
  | .none => isFalse (by simp [PyVal.In])
  | .int _ => isFalse (by simp [PyVal.In])

/-- The check against `AIPU_TVM_VALID_RPC_KEYS`, when it is set to a non-empty string. -/
def checkRpcKey (rpcKey : PyVal) : PyM Unit := do
  let validRpcKeys ← getenv (lit "AIPU_TVM_VALID_RPC_KEYS")
  match validRpcKeys with
  | .str keys =>
    if keys ≠ [] ∧ ¬rpcKey.In (validKeys B keys) then
      throw (.assertionError (lit "Invalid RPC key '" ++ rpcKey.toStr ++ lit "', the valid choices are " ++
        tupleRepr B (validKeys B keys) ++ lit "."))
  | _ => pure ()

/-- The RPC tracker as `get_rpc_session` sees it: `rpc.connect_tracker(host, port)` raises or
gives a connection, whose `request(key=..., priority=..., session_timeout=...)` raises or gives a
session. -/
structure Tracker (S : Type) where
  connectTracker : PyVal → ℤ → Except PyExc (PyVal → ℤ → ℕ → Except PyExc S)

/-- `get_rpc_session(session_timeout, rpc_key, tracker_host, tracker_port, priority)`; the
defaults of the source are `600, None, None, None, 1`. Python evaluates `int(tracker_port)`
before it connects and `int(priority)` only once the connection is made. -/
def getRpcSession {S : Type} (tracker : Tracker S) (sessionTimeout : ℕ)
    (rpcKey trackerHost trackerPort priority : PyVal) : PyM S := do
  let rpcKey ← resolveRpcKey rpcKey
  let trackerHost ← resolveTrackerHost trackerHost
  let trackerPort ← resolveTrackerPort trackerPort
  let priority ← resolvePriority priority
  checkRpcKey B rpcKey
  let port ← ofExcept (B.int trackerPort)
  let request ← ofExcept (tracker.connectTracker trackerHost port)
  let priority ← ofExcept (B.int priority)
  ofExcept (request rpcKey priority sessionTimeout)

/-- `check_remote(rpc_key, tracker_host, tracker_port)`. `_check` runs
`get_rpc_session(5, rpc_key, tracker_host, tracker_port, 100)` in a worker process that starts
from this process's state and whose changes this process does not see; `late` says that the
worker ran past the pool's 10 seconds, so that `result()` raises `TimeoutError` whatever it
did. Only `TimeoutError` is caught, also one that `_check` raised itself. -/
def checkRemote {S : Type} (tracker : Tracker S) (late : Bool) (rpcKey trackerHost trackerPort : PyVal) :
    PyM Bool := fun w =>
  let result : Except PyExc Unit :=
    if late then .error .timeoutError
    else match (getRpcSession B tracker 5 rpcKey trackerHost trackerPort (.int 100)).run w with
      | .ok _ _ => .ok ()
      | .error e _ => .error e
  match result with
  | .ok () => .ok true w
  | .error .timeoutError => .ok false w
  | .error e => .error e w

/-- `int()` on integers only, `repr()` as the identity and the space as the only blank. -/
def sampleBuiltins : Builtins where
  int v := match v with
    | .int n => .ok n
    | _ => .error (.valueError [])
  repr s := s
  isSpace c := c = 32
  int_int _ := rfl

/-- A tracker that nobody listens on. -/
def refusingTracker : Tracker Unit := ⟨fun _ _ => .error (.osError (lit "ConnectionRefusedError"))⟩

/-- A process with the tracker's address in its environment. -/
def rpcWorld : World :=
  ⟨lit "/",fun _ => none,fun n => if n = lit "AIPU_TVM_RPC_TRACKER_IP" then some (lit "10.0.0.1") else none⟩

/-- A priority that `int()` refuses is not read before the tracker answers: a refused connection
is what `get_rpc_session(600, "k", None, 9190, "high")` raises. -/
example : (getRpcSession sampleBuiltins refusingTracker 600 (.str (lit "k")) .none (.int 9190) (.str (lit "high"))).run
    rpcWorld = .error (.osError (lit "ConnectionRefusedError")) rpcWorld := rfl

/-- A worker that runs late makes `check_remote` answer `False` whatever the tracker does. -/
example : (checkRemote sampleBuiltins refusingTracker true (.str (lit "k")) .none (.int 9190)).run rpcWorld =
    .ok false rpcWorld := rfl

end RpcSession
end AipuCompass

import LightAI.Base.Trim
import LightAI.Agent.DockerConfig

/-!
# The launch parameters of a local process

They are read from the parameters of the instance, and where these do not say, from the defaults of the
runtime environment. A value of the wrong type is passed over. What is read is checked before it comes to
stand on a command line.
-/

namespace LightAI.Agent

structure InstanceLaunchParams where
  host : String
  port : Nat
  ctxSize : Option Nat
  gpuLayers : Option Int
  threads : Option Nat
  extraArgs : List String

def validateArg (arg : String) : Except String Unit :=
  if Text.isBlank arg then .error "extra args must not be empty"
  else if arg.utf8ByteSize > 256 || arg.toList.any Text.isControl then
    .error "extra args contain invalid characters"
  else .ok ()

def isSafeHostChar (c : Char) : Bool := c.isAlphanum || c ∈ ['.', '-', ':', '_']

def isSafeHost (host : String) : Bool :=
  host ≠ "" && host.utf8ByteSize ≤ 128 && host.toList.all isSafeHostChar

namespace InstanceLaunchParams

/-- The parameters of the instance, under the key of today or, as an object, under that of before. -/
def parsed (deps : External) (payload : Json) : Json :=
  match payload.get? "params_json" with
  | some (.str text) => (deps.jsonFromStr text).getD .null
  | some (.obj fields) => .obj fields
  | some .null | none =>
      match payload.get? "params" with
      | some (.obj fields) => .obj fields
      | _ => .null
  | some _ => .null

/-- The defaults of the runtime environment. -/
def rtDefaults (payload : Json) : Option Json :=
  ((payload.get? "runtime_params").bind (·.get? "defaults")).filter Json.isObject

section Fields

variable (parsed : Json) (rtDefaults : Option Json)

def listenHost : String :=
  Text.trim
    (((parsed.getStr "host").or (rtDefaults.bind (·.getStr "host"))).getD "127.0.0.1")

def listenPort : Nat :=
  ((parsed.getU64 "port").or (rtDefaults.bind (·.getU64 "port"))).getD 8080

/-- The items that are texts. -/
def givenArgs : List String :=
  (((parsed.get? "extra_args").bind Json.asArray).getD []).filterMap Json.asStr

/-- What is read, before it is checked. -/
def read : InstanceLaunchParams :=
  { host := listenHost parsed rtDefaults
    port := listenPort parsed rtDefaults
    ctxSize := (parsed.getU64 "ctx_size").or (rtDefaults.bind (·.getU64 "ctx_size"))
    gpuLayers := (parsed.getI64 "gpu_layers").or (rtDefaults.bind (·.getI64 "n_gpu_layers"))
    threads := (parsed.getU64 "threads").or (rtDefaults.bind (·.getU64 "threads"))
    extraArgs := givenArgs parsed }

end Fields

def fromPayload (deps : External) (payload : Json) : Except String InstanceLaunchParams :=
  let launch := read (parsed deps payload) (rtDefaults payload)
  if !isSafeHost launch.host then .error "invalid listen address"
  else if launch.port = 0 || launch.port > 65535 then .error "invalid listen port"
  else do
    launch.extraArgs.forM validateArg
    .ok launch

/-- What is checked before a process is started. -/
structure Valid (launch : InstanceLaunchParams) : Prop where
  host : isSafeHost launch.host = true
  port : 0 < launch.port ∧ launch.port ≤ 65535
  extraArgs : launch.extraArgs.forM validateArg = .ok ()

theorem fromPayload_eq_ok_iff {deps : External} {payload : Json} {launch : InstanceLaunchParams} :
    fromPayload deps payload = .ok launch
      ↔ launch = read (parsed deps payload) (rtDefaults payload) ∧ launch.Valid := by
  unfold fromPayload
  dsimp only
  generalize read (parsed deps payload) (rtDefaults payload) = given
  cases hhost : isSafeHost given.host with
  | false =>
      refine iff_of_false (fun h => by cases h) ?_
      rintro ⟨rfl, hvalid⟩
      exact absurd (hhost.symm.trans hvalid.host) (by decide)
  | true =>
      by_cases hport : given.port = 0 ∨ given.port > 65535
      · have hrefused : (given.port = 0 || given.port > 65535 : Bool) = true := by simpa using hport
        rw [hrefused]
        refine iff_of_false (fun h => by cases h) ?_
        rintro ⟨rfl, hvalid⟩
        have hrange := hvalid.port
        omega
      · have hpassed : (given.port = 0 || given.port > 65535 : Bool) = false := by simpa using hport
        rw [hpassed]
        cases hargs : given.extraArgs.forM validateArg with
        | error message =>
            refine iff_of_false (fun h => by cases h) ?_
            rintro ⟨rfl, hvalid⟩
            exact absurd (hargs.symm.trans hvalid.extraArgs) (by simp)
        | ok u =>
            constructor
            · intro h
              have hgiven : given = launch := Except.ok.inj h
              have hrange : 0 < given.port ∧ given.port ≤ 65535 := by omega
              rw [← hgiven]
              exact ⟨rfl, hhost, hrange, hargs⟩
            · rintro ⟨rfl, -⟩
              rfl

end InstanceLaunchParams

end LightAI.Agent

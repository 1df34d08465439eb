import LightAI.Server.Instances
import LightAI.Agent.LaunchParams

/-!
# The parameters that both sides check

The server checks the launch parameters of an instance before it stores them and before it sends them, and
the agent checks them again when it reads them from the payload. The two read the same keys, but the server
passes a value over whose type it does not expect, and it allows an address any printable character.
-/

namespace LightAI.System

open LightAI.Agent (InstanceLaunchParams validateArg isSafeHost isSafeHostChar)
open LightAI.Agent.InstanceLaunchParams (fromPayload read listenHost listenPort givenArgs)
open LightAI.Server (parseInstanceParams validateExtraArg validateExtraArgs validateListenHost
  validateListenPort refuse)

/-! ### What the server has checked -/

/-- An argument that passes on both sides. -/
structure PlainArg (arg : String) : Prop where
  notBlank : Text.isBlank arg = false
  size : arg.utf8ByteSize ≤ 256
  printable : arg.toList.any Text.isControl = false

/-- What an accepted object satisfies. -/
structure Checked (params : Json) : Prop where
  host : ∀ host, params.getStr "host" = some host →
    Text.isBlank host = false ∧ host.utf8ByteSize ≤ 128
  port : ∀ port, params.getU64 "port" = some port → 0 < port ∧ port ≤ 65535
  extraArgs : ∀ items, (params.get? "extra_args").bind Json.asArray = some items →
    ∃ args : List String, items = args.map Json.str ∧ ∀ arg ∈ args, PlainArg arg

/-- A check that goes through has gone through in each of its parts. -/
theorem ok_of_bind {ε α β : Type} {first : Except ε α} {rest : α → Except ε β} {result : β}
    (h : (first >>= rest) = .ok result) : ∃ value, first = .ok value ∧ rest value = .ok result := by
  cases first with
  | error e => cases h
  | ok value => exact ⟨value, rfl, h⟩

theorem validateExtraArg_ok {item : Json} (h : validateExtraArg item = .ok ()) :
    ∃ arg, item = .str arg ∧ PlainArg arg := by
  cases item with
  | str arg =>
      change (if _ then _ else _) = Except.ok () at h
      by_cases hbad : (Text.isBlank arg || arg.utf8ByteSize > 256
          || arg.toList.any Text.isControl) = true
      · rw [if_pos hbad] at h
        cases h
      · simp only [Bool.or_eq_true, decide_eq_true_eq, not_or, Bool.not_eq_true] at hbad
        obtain ⟨⟨hblank, hsize⟩, hcontrol⟩ := hbad
        exact ⟨arg, rfl, hblank, by omega, hcontrol⟩
  | null => cases h
  | bool value => cases h
  | int value => cases h
  | float text => cases h
  | arr items => cases h
  | obj fields => cases h

theorem validateExtraArgs_ok {items : List Json} (h : validateExtraArgs items = .ok ()) :
    ∃ args : List String, items = args.map Json.str ∧ ∀ arg ∈ args, PlainArg arg := by
  induction items with
  | nil => exact ⟨[], rfl, fun arg harg => absurd harg List.not_mem_nil⟩
  | cons item items ih =>
      obtain ⟨u, hitem, hitems⟩ := ok_of_bind h
      obtain ⟨args, hargs, hplain⟩ := ih hitems
      obtain ⟨arg, rfl, harg⟩ := validateExtraArg_ok hitem
      refine ⟨arg :: args, by rw [hargs]; rfl, fun other hother => ?_⟩
      rcases List.mem_cons.mp hother with rfl | hrest
      · exact harg
      · exact hplain other hrest

theorem validateListenHost_ok {params : Json} (h : validateListenHost params = .ok ()) :
    ∀ host, params.getStr "host" = some host →
      Text.isBlank host = false ∧ host.utf8ByteSize ≤ 128 := by
  intro host hhost
  unfold validateListenHost at h
  rw [hhost] at h
  change (if _ then _ else _) = Except.ok () at h
  by_cases hbad : (Text.isBlank host || host.utf8ByteSize > 128
      || host.toList.any Text.isControl) = true
  · rw [if_pos hbad] at h
    cases h
  · simp only [Bool.or_eq_true, decide_eq_true_eq, not_or, Bool.not_eq_true] at hbad
    obtain ⟨⟨hblank, hsize⟩, -⟩ := hbad
    exact ⟨hblank, by omega⟩

theorem validateListenPort_ok {params : Json} (h : validateListenPort params = .ok ()) :
    ∀ port, params.getU64 "port" = some port → 0 < port ∧ port ≤ 65535 := by
  intro port hport
  unfold validateListenPort at h
  rw [hport] at h
  change (if _ then _ else _) = Except.ok () at h
  by_cases hbad : (port = 0 || port > 65535 : Bool) = true
  · rw [if_pos hbad] at h
    cases h
  · simp only [Bool.or_eq_true, decide_eq_true_eq, not_or] at hbad
    omega

/-- No text stands for the empty object; any other comes from the parser. -/
theorem parseInstanceParams_ok {deps : Server.External} {text : Option String} {params : Json}
    (h : parseInstanceParams deps text = .ok params) :
    (params = .obj [] ∨ ∃ text, deps.jsonFromStr text = some params) ∧ Checked params := by
  unfold parseInstanceParams at h
  cases hgiven : (text.map Text.trim).filter (· ≠ "") with
  | none =>
      rw [hgiven] at h
      obtain rfl : Json.obj [] = params := Except.ok.inj h
      exact ⟨Or.inl rfl, fun host hhost => (by cases hhost), fun port hport => (by cases hport),
        fun items hitems => (by cases hitems)⟩
  | some value =>
      rw [hgiven] at h
      dsimp only at h
      cases hparsed : deps.jsonFromStr value with
      | none =>
          rw [hparsed] at h
          cases h
      | some parsed =>
          rw [hparsed] at h
          obtain ⟨u, -, h⟩ := ok_of_bind h
          obtain ⟨u, hhost, h⟩ := ok_of_bind h
          obtain ⟨u, hport, h⟩ := ok_of_bind h
          obtain ⟨u, hargs, h⟩ := ok_of_bind h
          obtain rfl : parsed = params := Except.ok.inj h
          refine ⟨Or.inr ⟨value, hparsed⟩, validateListenHost_ok hhost,
            validateListenPort_ok hport, fun items hitems => ?_⟩
          rw [hitems] at hargs
          exact validateExtraArgs_ok hargs

/-! ### What the agent makes of it -/

/-- The agent starts with what the parameters say. -/
structure Agrees (params : Json) (launch : InstanceLaunchParams) : Prop where
  host : ∀ value, params.get? "host" = some value →
    ∃ host, value = .str host ∧ Text.trim launch.host = Text.trim host
  port : ∀ value, params.get? "port" = some value → value = .int launch.port
  extraArgs : ∀ value, params.get? "extra_args" = some value →
    value = .arr (launch.extraArgs.map Json.str)

/-- The agent can read each value, and the address has only characters of a host name or an IP address. -/
structure Understood (params : Json) : Prop where
  host : ∀ value, params.get? "host" = some value →
    ∃ host, value = .str host ∧ (Text.trim host).toList.all isSafeHostChar
  port : ∀ value, params.get? "port" = some value → ∃ port, value.asU64 = some port
  extraArgs : ∀ value, params.get? "extra_args" = some value →
    ∃ items, value.asArray = some items

/-- The agent's parser reads back what the server prints of a value that its own parser has returned, or of
the empty object. -/
structure ReadsBack (deps : Server.External) (agent : Agent.External) : Prop where
  parsed : ∀ text params, deps.jsonFromStr text = some params →
    agent.jsonFromStr (deps.jsonToString params) = some params
  empty : agent.jsonFromStr (deps.jsonToString (.obj [])) = some (.obj [])

/-- A payload of nothing but the parameters. -/
def paramsPayload (deps : Server.External) (params : Json) : Json :=
  .obj [("params_json", .str (deps.jsonToString params))]

section Agreement

variable {deps : Server.External} {agent : Agent.External} {params : Json}
  {launch : InstanceLaunchParams}

theorem fromPayload_paramsPayload
    (hread : agent.jsonFromStr (deps.jsonToString params) = some params) :
    fromPayload agent (paramsPayload deps params) = .ok launch
      ↔ launch = read params none ∧ launch.Valid := by
  rw [InstanceLaunchParams.fromPayload_eq_ok_iff]
  have hparsed : InstanceLaunchParams.parsed agent (paramsPayload deps params) = params := by
    change (agent.jsonFromStr (deps.jsonToString params)).getD .null = params
    rw [hread]
    rfl
  have hdefaults : InstanceLaunchParams.rtDefaults (paramsPayload deps params) = none := rfl
  rw [hparsed, hdefaults]

theorem validateArg_of_plain {arg : String} (hplain : PlainArg arg) : validateArg arg = .ok () := by
  unfold validateArg
  have hsize : (decide (arg.utf8ByteSize > 256)) = false := by
    simpa using hplain.size
  rw [hplain.notBlank, hsize, hplain.printable]
  rfl

theorem validateArgs_of_plain {args : List String} (hplain : ∀ arg ∈ args, PlainArg arg) :
    args.forM validateArg = .ok () := by
  induction args with
  | nil => rfl
  | cons arg args ih =>
      change (validateArg arg >>= fun _ => args.forM validateArg) = .ok ()
      rw [validateArg_of_plain (hplain arg List.mem_cons_self)]
      exact ih fun other hother => hplain other (List.mem_cons_of_mem arg hother)

theorem filterMap_asStr (args : List String) : (args.map Json.str).filterMap Json.asStr = args := by
  induction args with
  | nil => rfl
  | cons arg args ih => exact congrArg (arg :: ·) ih

/-- An accepted address that the agent understands is safe. -/
theorem isSafeHost_trim {host : String} (hblank : Text.isBlank host = false)
    (hsize : host.utf8ByteSize ≤ 128) (hall : (Text.trim host).toList.all isSafeHostChar = true) :
    isSafeHost (Text.trim host) = true := by
  have hne : Text.trim host ≠ "" := Text.trim_ne_empty hblank
  have hle : (Text.trim host).utf8ByteSize ≤ 128 := (Text.utf8ByteSize_trim_le host).trans hsize
  unfold isSafeHost
  rw [hall]
  simp [hne, hle]

theorem listenHost_of_str {host : String} (hhost : params.get? "host" = some (.str host)) :
    listenHost params none = Text.trim host := by
  unfold listenHost Json.getStr
  rw [hhost]
  rfl

theorem listenPort_of_asU64 {value : Json} {port : Nat} (hvalue : params.get? "port" = some value)
    (hport : value.asU64 = some port) : listenPort params none = port := by
  unfold listenPort Json.getU64
  rw [hvalue, Option.bind_some, hport]
  rfl

theorem givenArgs_of_items {args : List String}
    (hargs : params.get? "extra_args" = some (.arr (args.map Json.str))) :
    givenArgs params = args := by
  unfold givenArgs
  rw [hargs]
  exact filterMap_asStr args

theorem int_of_asU64 {value : Json} {port : Nat} (hport : value.asU64 = some port) :
    value = .int port := by
  cases value with
  | int value =>
      unfold Json.asU64 at hport
      by_cases hrange : 0 ≤ value ∧ value < 2 ^ 64
      · have hvalue : value.toNat = port := by
          simpa only [if_pos hrange, Option.some.injEq] using hport
        have hsame : value = (port : Int) := by omega
        rw [hsame]
      · simp only [if_neg hrange] at hport
        cases hport
  | null => cases hport
  | bool value => cases hport
  | float text => cases hport
  | str value => cases hport
  | arr items => cases hport
  | obj fields => cases hport

theorem arr_of_asArray {value : Json} {items : List Json} (hitems : value.asArray = some items) :
    value = .arr items := by
  cases value with
  | arr items' => exact congrArg Json.arr (Option.some.inj hitems)
  | null => cases hitems
  | bool value => cases hitems
  | int value => cases hitems
  | float text => cases hitems
  | str value => cases hitems
  | obj fields => cases hitems

section Understood

variable (hchecked : Checked params) (hunderstood : Understood params)
include hchecked hunderstood

theorem host_of_understood : isSafeHost (listenHost params none) = true ∧
    ∀ value, params.get? "host" = some value →
      ∃ host, value = .str host ∧ Text.trim (listenHost params none) = Text.trim host := by
  cases hhost : params.get? "host" with
  | none =>
      have hdefault : listenHost params none = "127.0.0.1" := by
        unfold listenHost Json.getStr
        rw [hhost]
        decide
      rw [hdefault]
      exact ⟨by decide, fun value hvalue => by cases hvalue⟩
  | some value =>
      obtain ⟨host, rfl, hall⟩ := hunderstood.host value hhost
      have hgiven : params.getStr "host" = some host := by
        unfold Json.getStr
        rw [hhost]
        rfl
      obtain ⟨hblank, hsize⟩ := hchecked.host host hgiven
      rw [listenHost_of_str hhost, Text.trim_trim]
      refine ⟨isSafeHost_trim hblank hsize hall, fun value hvalue => ⟨host, ?_, rfl⟩⟩
      exact (Option.some.inj hvalue).symm

theorem port_of_understood : (0 < listenPort params none ∧ listenPort params none ≤ 65535) ∧
    ∀ value, params.get? "port" = some value → value = .int (listenPort params none) := by
  cases hvalue : params.get? "port" with
  | none =>
      have hdefault : listenPort params none = 8080 := by
        unfold listenPort Json.getU64
        rw [hvalue]
        rfl
      rw [hdefault]
      exact ⟨by omega, fun value hvalue => by cases hvalue⟩
  | some value =>
      obtain ⟨port, hport⟩ := hunderstood.port value hvalue
      have hgiven : params.getU64 "port" = some port := by
        unfold Json.getU64
        rw [hvalue]
        exact hport
      rw [listenPort_of_asU64 hvalue hport]
      refine ⟨hchecked.port port hgiven, fun other hother => ?_⟩
      rw [← Option.some.inj hother]
      exact int_of_asU64 hport

theorem extraArgs_of_understood : (givenArgs params).forM validateArg = .ok () ∧
    ∀ value, params.get? "extra_args" = some value →
      value = .arr ((givenArgs params).map Json.str) := by
  cases hvalue : params.get? "extra_args" with
  | none =>
      have hdefault : givenArgs params = [] := by
        unfold givenArgs
        rw [hvalue]
        rfl
      rw [hdefault]
      exact ⟨rfl, fun value hvalue => by cases hvalue⟩
  | some value =>
      obtain ⟨items, hitems⟩ := hunderstood.extraArgs value hvalue
      have hgiven : (params.get? "extra_args").bind Json.asArray = some items := by
        rw [hvalue]
        exact hitems
      obtain ⟨args, rfl, hplain⟩ := hchecked.extraArgs items hgiven
      obtain rfl : value = .arr (args.map Json.str) := arr_of_asArray hitems
      rw [givenArgs_of_items hvalue]
      refine ⟨validateArgs_of_plain hplain, fun other hother => ?_⟩
      exact (Option.some.inj hother).symm

end Understood

end Agreement

/-! ### An address of two words -/

def wordsParams : Json := .obj [("host", .str "my host")]

def wordsText : String := "\x7b\"host\":\"my host\"\x7d"

def portParams : Json := .obj [("port", .int 9090), ("extra_args", .arr [.str "--verbose"])]

def portText : String := "\x7b\"port\":9090,\"extra_args\":[\"--verbose\"]\x7d"

/-- Of all texts two are parsed. -/
def parseParams (text : String) : Option Json :=
  if text = wordsText then some wordsParams
  else if text = portText then some portParams
  else none

/-- A value is printed by the key that it has. -/
def printParams (params : Json) : String :=
  if (params.get? "host").isSome then wordsText
  else if (params.get? "port").isSome then portText
  else "\x7b\x7d"

def paramsServer : Server.External where
  jsonFromStr := parseParams
  jsonToString := printParams
  urlParse _ := none

def paramsAgent : Agent.External :=
  { Agent.noExternal with
    jsonFromStr text := if text = "\x7b\x7d" then some (.obj []) else parseParams text }

theorem paramsReadBack : ReadsBack paramsServer paramsAgent where
  parsed text params hparsed := by
    change (if text = wordsText then some wordsParams
      else if text = portText then some portParams else none) = some params at hparsed
    by_cases hwords : text = wordsText
    · rw [if_pos hwords] at hparsed
      rw [← Option.some.inj hparsed]
      rfl
    · rw [if_neg hwords] at hparsed
      by_cases hport : text = portText
      · rw [if_pos hport] at hparsed
        rw [← Option.some.inj hparsed]
        rfl
      · rw [if_neg hport] at hparsed
        cases hparsed
  empty := rfl

end LightAI.System

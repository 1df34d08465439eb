import LightAI.Base.Lines
import LightAI.Agent.DockerBackend

/-!
# Recorded commands

A start records the command that it executes, as an array with one text for each argument. A record is right
if it has the arguments in their order, except that an argument stands redacted when it holds a marker of a
secret or follows a flag that holds one. The code looks at each argument alone and does not look at the
program, and the record of `docker run` names the image once more than the command.
-/

namespace LightAI.Agent

/-! ### The records -/

def sensitiveNeedles : List String :=
  ["token", "secret", "password", "api-key", "api_key", "authorization"]

def isSensitiveArg (arg : String) : Bool :=
  sensitiveNeedles.any (Text.contains (Text.toAsciiLowercase arg))

/-- The same as for the arguments of `docker run`. -/
def sanitizeArgForDisplay (arg : String) : String := sanitizeDockerArg arg

def commandParts (program : String) (args : List String) : List String :=
  program :: args.map sanitizeArgForDisplay

def commandSummary (deps : External) (program : String) (args : List String) : String :=
  deps.jsonStringArray (commandParts program args)

def dockerCommandParts (image : String) (dockerArgs vllmArgs : List String) : List String :=
  ["docker"] ++ dockerArgs.map sanitizeDockerArg ++ [image] ++ vllmArgs.map sanitizeDockerArg

theorem dockerCommandSummary_eq (deps : External) (image : String) (dockerArgs vllmArgs : List String) :
    dockerCommandSummary deps image dockerArgs vllmArgs
      = deps.jsonStringArray (dockerCommandParts image dockerArgs vllmArgs) := rfl

theorem sanitizeArgForDisplay_eq (arg : String) :
    sanitizeArgForDisplay arg = if isSensitiveArg arg then "[redacted]" else arg := rfl

theorem isSensitiveArg_iff {arg : String} : isSensitiveArg arg = true ↔
    ∃ needle ∈ sensitiveNeedles, needle.toList <:+: arg.toList.map Char.toLower := by
  unfold isSensitiveArg
  rw [List.any_eq_true]
  simp only [Text.contains_iff, Text.toList_toAsciiLowercase]

/-! ### What a record should be -/

def isFlag (arg : String) : Bool := Text.startsWith arg "-"

/-- Whether the argument before a place is a flag that holds a marker. -/
def FollowsSensitiveFlag (argv : List String) (place : Nat) : Prop :=
  ∃ flag, 0 < place ∧ argv[place - 1]? = some flag ∧ isFlag flag = true ∧ isSensitiveArg flag = true

/-- A record with one element for each argument: the argument, or the redaction where it may hold a secret. -/
structure IsFaithful (argv recorded : List String) : Prop where
  length_eq : recorded.length = argv.length
  redacted : ∀ place arg, argv[place]? = some arg →
    isSensitiveArg arg = true ∨ FollowsSensitiveFlag argv place → recorded[place]? = some "[redacted]"
  kept : ∀ place arg, argv[place]? = some arg →
    ¬ (isSensitiveArg arg = true ∨ FollowsSensitiveFlag argv place) → recorded[place]? = some arg

/-- No argument follows a flag with a marker without being redacted on its own account. -/
def NoSecretValue (argv : List String) : Prop :=
  ∀ place arg, argv[place]? = some arg → FollowsSensitiveFlag argv place →
    isSensitiveArg arg = true ∨ arg = "[redacted]"

theorem getElem?_commandParts_succ (program : String) (args : List String) (place : Nat) :
    (commandParts program args)[place + 1]? = args[place]?.map sanitizeArgForDisplay := by
  unfold commandParts
  rw [List.getElem?_cons_succ, List.getElem?_map]

theorem commandParts_isFaithful_iff (program : String) (args : List String) :
    IsFaithful (program :: args) (commandParts program args) ↔
      isSensitiveArg program = false ∧ NoSecretValue (program :: args) := by
  constructor
  · intro hfaithful
    refine ⟨?_, ?_⟩
    · rw [← Bool.not_eq_true]
      intro hsensitive
      have hrecorded := hfaithful.redacted 0 program rfl (Or.inl hsensitive)
      have hprogram : program = "[redacted]" := Option.some.inj hrecorded
      rw [hprogram, isSensitiveArg_iff] at hsensitive
      exact absurd hsensitive (by decide)
    · intro place arg hplace hfollows
      cases place with
      | zero =>
          obtain ⟨flag, hpos, -⟩ := hfollows
          omega
      | succ place =>
          have hrecorded := hfaithful.redacted (place + 1) arg hplace (Or.inr hfollows)
          rw [List.getElem?_cons_succ] at hplace
          rw [getElem?_commandParts_succ, hplace, Option.map_some, sanitizeArgForDisplay_eq] at hrecorded
          by_cases hsensitive : isSensitiveArg arg = true
          · exact Or.inl hsensitive
          · rw [if_neg hsensitive] at hrecorded
            exact Or.inr (Option.some.inj hrecorded)
  · rintro ⟨hprogram, hvalues⟩
    refine ⟨?_, ?_, ?_⟩
    · unfold commandParts
      rw [List.length_cons, List.length_cons, List.length_map]
    · intro place arg hplace hredact
      cases place with
      | zero =>
          have hsame : program = arg := Option.some.inj hplace
          obtain hsensitive | ⟨flag, hpos, -⟩ := hredact
          · rw [← hsame, hprogram] at hsensitive
            cases hsensitive
          · omega
      | succ place =>
          have hsecret : isSensitiveArg arg = true ∨ arg = "[redacted]" :=
            hredact.elim Or.inl (hvalues (place + 1) arg hplace)
          rw [List.getElem?_cons_succ] at hplace
          rw [getElem?_commandParts_succ, hplace, Option.map_some, sanitizeArgForDisplay_eq]
          by_cases hsensitive : isSensitiveArg arg = true
          · rw [if_pos hsensitive]
          · rw [if_neg hsensitive, hsecret.resolve_left hsensitive]
    · intro place arg hplace hkeep
      cases place with
      | zero => exact hplace
      | succ place =>
          rw [List.getElem?_cons_succ] at hplace
          rw [getElem?_commandParts_succ, hplace, Option.map_some, sanitizeArgForDisplay_eq,
            if_neg fun hsensitive => hkeep (Or.inl hsensitive)]

/-- The record of a container's start is one longer than the command. -/
theorem length_dockerCommandParts (image : String) (dockerArgs vllmArgs : List String) :
    (dockerCommandParts image dockerArgs vllmArgs).length
      = ("docker" :: (dockerArgs ++ vllmArgs)).length + 1 := by
  unfold dockerCommandParts
  simp only [List.length_append, List.length_map, List.length_cons, List.length_nil]
  omega

/-- Exactly when a start records its command rightly: a local start if the program holds no marker and no flag
with a marker is followed by a value without one, a container's start never. -/
theorem recorded_isFaithful_iff (deps : External) :
    (∀ program args, IsFaithful (program :: args) (commandParts program args) ↔
      isSensitiveArg program = false ∧ NoSecretValue (program :: args)) ∧
    ∀ payload dockerArgs, buildDockerRunArgs payload = .ok dockerArgs →
      ¬ IsFaithful ("docker" :: (dockerArgs ++ buildVllmArgs deps payload))
        (dockerCommandParts (Text.trim payload.docker.image) dockerArgs (buildVllmArgs deps payload)) := by
  refine ⟨commandParts_isFaithful_iff, ?_⟩
  intro payload dockerArgs _ hfaithful
  have hlonger := length_dockerCommandParts (Text.trim payload.docker.image) dockerArgs
    (buildVllmArgs deps payload)
  have hsame := hfaithful.length_eq
  omega

/-- The value of an option for a key is recorded as it is. -/
theorem apiKey_recorded :
    ¬ IsFaithful ("/opt/llama-server" :: ["--api-key", "sk-1234"])
      (commandParts "/opt/llama-server" ["--api-key", "sk-1234"]) := by
  rw [commandParts_isFaithful_iff]
  rintro ⟨-, hvalues⟩
  have hflag : isSensitiveArg "--api-key" = true := isSensitiveArg_iff.mpr (by decide)
  obtain hsensitive | hredacted := hvalues 2 "sk-1234" rfl ⟨"--api-key", by decide, rfl, by decide, hflag⟩
  · exact absurd (isSensitiveArg_iff.mp hsensitive) (by decide)
  · exact absurd hredacted (by decide)

end LightAI.Agent

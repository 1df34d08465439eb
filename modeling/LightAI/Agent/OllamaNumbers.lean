import LightAI.Agent.Ollama

/-!
# The numbers of an Ollama runtime

Five settings are read as 64-bit integers and cast to 16 or 32 bits. What reaches the daemon is the number
that was set if and only if it is within the range of its type; a larger one wraps and is not rejected.
-/

namespace LightAI.Agent

namespace OllamaRuntimeConfig

/-- The object that the settings are read from. -/
def settings (params : Json) : Json := ((params.get? "defaults").filter Json.isObject).getD params

/-- The fields that hold numbers, with the bits that are kept of each. -/
def numericFields : List (String × Nat) :=
  [("port", 16), ("max_loaded_models", 32), ("num_parallel", 32), ("max_queue", 32),
    ("context_length", 32)]

/-- Every number that is set is within the range of its type. -/
def InRange (params : Json) : Prop :=
  ∀ field ∈ numericFields, ∀ value, (settings params).getU64 field.1 = some value → value < 2 ^ field.2

/-- What is set under a name is what the daemon is told under another. -/
def ToldInFull (params : Json) (field variable' : String) : Prop :=
  ∀ value, (settings params).getU64 field = some value →
    (fromRuntimeParams params).env.lookup variable' = some (toString value)

/-- Every number that is set is used with its full value, in the URL and for the daemon. -/
structure UsedInFull (params : Json) : Prop where
  url : ∀ port, (settings params).getU64 "port" = some port →
    (fromRuntimeParams params).apiBase
      = "http://" ++ (fromRuntimeParams params).host ++ ":" ++ toString port
  listens : ∀ port, (settings params).getU64 "port" = some port →
    (fromRuntimeParams params).env.lookup "OLLAMA_HOST"
      = some ((fromRuntimeParams params).host ++ ":" ++ toString port)
  maxLoadedModels : ToldInFull params "max_loaded_models" "OLLAMA_MAX_LOADED_MODELS"
  numParallel : ToldInFull params "num_parallel" "OLLAMA_NUM_PARALLEL"
  maxQueue : ToldInFull params "max_queue" "OLLAMA_MAX_QUEUE"
  contextLength : ToldInFull params "context_length" "OLLAMA_CONTEXT_LENGTH"

/-! ### What the daemon is told -/

section Env

variable (cfg : OllamaRuntimeConfig)

theorem lookup_host : cfg.env.lookup "OLLAMA_HOST" = some (cfg.host ++ ":" ++ toString cfg.port) := rfl

/-- The models directory may or may not be among the variables, and the others come after it. -/
theorem lookup_env {variable' : String} (hhost : variable' ≠ "OLLAMA_HOST")
    (hmodels : variable' ≠ "OLLAMA_MODELS") :
    cfg.env.lookup variable'
      = [("OLLAMA_MAX_LOADED_MODELS", toString cfg.maxLoadedModels),
          ("OLLAMA_NUM_PARALLEL", toString cfg.numParallel),
          ("OLLAMA_MAX_QUEUE", toString cfg.maxQueue),
          ("OLLAMA_KEEP_ALIVE", cfg.keepAlive),
          ("OLLAMA_CONTEXT_LENGTH", toString cfg.contextLength)].lookup variable' := by
  have hhost' : (variable' == "OLLAMA_HOST") = false := beq_false_of_ne hhost
  have hmodels' : (variable' == "OLLAMA_MODELS") = false := beq_false_of_ne hmodels
  unfold env
  by_cases hblank : Text.isBlank cfg.modelsDir = true
  · rw [if_pos hblank, List.append_nil, List.singleton_append, List.lookup_cons, hhost']
  · rw [if_neg hblank, List.singleton_append, List.cons_append, List.singleton_append, List.lookup_cons,
      hhost', List.lookup_cons, hmodels']

end Env

/-- A cast number is told in full if and only if it is within the range. -/
theorem toldInFull_iff {params : Json} {field variable' : String} {bits default : Nat}
    (htold : (fromRuntimeParams params).env.lookup variable'
      = some (toString (((settings params).getU64 field).getD default % 2 ^ bits))) :
    ToldInFull params field variable' ↔
      ∀ value, (settings params).getU64 field = some value → value < 2 ^ bits := by
  unfold ToldInFull
  rw [htold]
  constructor
  · intro hfull value hvalue
    have hsame := hfull value hvalue
    rw [hvalue, Option.getD_some] at hsame
    have hnumber : value % 2 ^ bits = value := Nat.repr_injective (Option.some.inj hsame)
    rw [← hnumber]
    exact Nat.mod_lt _ (Nat.two_pow_pos bits)
  · intro hrange value hvalue
    rw [hvalue, Option.getD_some, Nat.mod_eq_of_lt (hrange value hvalue)]

theorem fromRuntimeParams_port (params : Json) :
    (fromRuntimeParams params).port = ((settings params).getU64 "port").getD 11434 % 2 ^ 16 := rfl

/-- The port is used in full if and only if it is within 16 bits. -/
theorem listens_iff (params : Json) :
    (∀ port, (settings params).getU64 "port" = some port →
      (fromRuntimeParams params).env.lookup "OLLAMA_HOST"
        = some ((fromRuntimeParams params).host ++ ":" ++ toString port)) ↔
      ∀ port, (settings params).getU64 "port" = some port → port < 2 ^ 16 := by
  rw [lookup_host, fromRuntimeParams_port]
  constructor
  · intro hfull port hport
    have hsame := congrArg String.toList (Option.some.inj (hfull port hport))
    simp only [hport, Option.getD_some, String.toList_append] at hsame
    have hnumber : port % 2 ^ 16 = port :=
      Nat.repr_injective (String.toList_inj.mp (List.append_cancel_left hsame))
    omega
  · intro hrange port hport
    rw [hport, Option.getD_some, Nat.mod_eq_of_lt (hrange port hport)]

/-- The numbers that are set are used in full if and only if each is within the range of its type. -/
theorem usedInFull_iff (params : Json) : UsedInFull params ↔ InRange params := by
  have hmaxLoadedModels : ToldInFull params "max_loaded_models" "OLLAMA_MAX_LOADED_MODELS" ↔
      ∀ value, (settings params).getU64 "max_loaded_models" = some value → value < 2 ^ 32 :=
    toldInFull_iff ((lookup_env _ (by decide) (by decide)).trans rfl)
  have hnumParallel : ToldInFull params "num_parallel" "OLLAMA_NUM_PARALLEL" ↔
      ∀ value, (settings params).getU64 "num_parallel" = some value → value < 2 ^ 32 :=
    toldInFull_iff ((lookup_env _ (by decide) (by decide)).trans rfl)
  have hmaxQueue : ToldInFull params "max_queue" "OLLAMA_MAX_QUEUE" ↔
      ∀ value, (settings params).getU64 "max_queue" = some value → value < 2 ^ 32 :=
    toldInFull_iff ((lookup_env _ (by decide) (by decide)).trans rfl)
  have hcontextLength : ToldInFull params "context_length" "OLLAMA_CONTEXT_LENGTH" ↔
      ∀ value, (settings params).getU64 "context_length" = some value → value < 2 ^ 32 :=
    toldInFull_iff ((lookup_env _ (by decide) (by decide)).trans rfl)
  constructor
  · intro hfull field hfield
    unfold numericFields at hfield
    simp only [List.mem_cons, List.not_mem_nil, or_false] at hfield
    obtain rfl | rfl | rfl | rfl | rfl := hfield
    · exact (listens_iff params).mp hfull.listens
    · exact hmaxLoadedModels.mp hfull.maxLoadedModels
    · exact hnumParallel.mp hfull.numParallel
    · exact hmaxQueue.mp hfull.maxQueue
    · exact hcontextLength.mp hfull.contextLength
  · intro hrange
    have hport := hrange ("port", 16) (by decide)
    refine ⟨?_, (listens_iff params).mpr hport,
      hmaxLoadedModels.mpr (hrange ("max_loaded_models", 32) (by decide)),
      hnumParallel.mpr (hrange ("num_parallel", 32) (by decide)),
      hmaxQueue.mpr (hrange ("max_queue", 32) (by decide)),
      hcontextLength.mpr (hrange ("context_length", 32) (by decide))⟩
    intro port hset
    unfold apiBase
    rw [fromRuntimeParams_port, hset, Option.getD_some, Nat.mod_eq_of_lt (hport port hset)]

/-- A port beyond 16 bits is used as another port. -/
theorem wrapped_port :
    ¬ UsedInFull (.obj [("port", .int 77000)]) ∧
      (fromRuntimeParams (.obj [("port", .int 77000)])).apiBase = "http://127.0.0.1:11464" := by
  refine ⟨?_, by decide⟩
  intro hfull
  have hurl := hfull.url 77000 rfl
  exact absurd hurl (by decide)

end OllamaRuntimeConfig

end LightAI.Agent

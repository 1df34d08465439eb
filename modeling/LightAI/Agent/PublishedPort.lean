import LightAI.Agent.DockerLayers

/-!
# The port of a container

A container publishes one port, which leads from a port of the node to a port inside the container. The
backend in it listens on a port of its own, which another field of the runtime environment names.
-/

namespace LightAI.Agent

open CommandLine (Options arguments values repeated pairs)

/-! ### What a published port says -/

theorem colon_notMem_toString (n : Nat) : ':' ∉ (toString n).toList := by
  intro hmem
  have hdigits : (toString n).toList = Nat.toDigits 10 n := Nat.toList_repr
  rw [hdigits] at hmem
  have hdigit := Nat.isDigit_of_mem_toDigits (by omega) (by omega) hmem
  exact absurd hdigit (by decide)

/-- The two ports can be told from the text. -/
theorem published_inj {host container host' container' : Nat}
    (h : toString host ++ ":" ++ toString container
      = toString host' ++ ":" ++ toString container') :
    host = host' ∧ container = container' := by
  have hlists : (toString host).toList ++ ':' :: (toString container).toList
      = (toString host').toList ++ ':' :: (toString container').toList := by
    have htoList := congrArg String.toList h
    simp only [String.toList_append, List.append_assoc] at htoList
    exact htoList
  obtain ⟨hhost, -, hcontainer⟩ := (List.append_cons_inj_of_notMem (colon_notMem_toString host)
    (colon_notMem_toString container)).mp hlists
  exact ⟨Nat.repr_injective (String.toList_inj.mp hhost),
    Nat.repr_injective (String.toList_inj.mp hcontainer)⟩

/-! ### The options, read off the arguments -/

section Read

variable {modelHostPath modelName : String} {runtime : Option DockerRuntimeConfig}
  {overrides : Option DockerInstanceOverrides} {merged : DockerPayload} {dockerArgs : List String}

/-- Without extra arguments there is nothing between the options and the image. -/
theorem pairs_dockerArgs (hnone : merged.docker.extraDockerArgs = [])
    (hargs : buildDockerRunArgs merged = .ok dockerArgs) :
    pairs dockerArgs.tail
      = dockerOptions merged.docker ++ [("--detach", Text.trim merged.docker.image)] := by
  obtain ⟨-, -, hbuilt⟩ := buildDockerRunArgs_eq_ok_iff.mp hargs
  rw [hbuilt, hnone, List.append_nil]
  exact CommandLine.pairs_arguments_append _ _

theorem pairs_vllmArgs (deps : External) (hnone : merged.vllm.extraVllmArgs = []) :
    pairs (buildVllmArgs deps merged) = vllmOptions deps merged.vllm := by
  rw [buildVllmArgs_eq, hnone, List.append_nil]
  exact CommandLine.pairs_arguments _

/-- Neither layer has extra arguments. -/
structure NoExtraArgs (rt : DockerRuntimeConfig) (ov : DockerInstanceOverrides) : Prop where
  runtimeDocker : rt.extraDockerArgs = []
  runtimeBackend : rt.extraBackendArgs = []
  instanceDocker : ov.extraDockerArgs = []
  instanceBackend : ov.extraBackendArgs = []

variable (hmerge : mergeDockerConfig modelHostPath modelName runtime overrides = .ok merged)
  (hnone : NoExtraArgs (runtime.getD {}) (overrides.getD {}))
include hmerge hnone

theorem extraArgs_nil : merged.docker.extraDockerArgs = [] ∧ merged.vllm.extraVllmArgs = [] := by
  obtain ⟨hdocker, hvllm⟩ := mergeDockerConfig_ok hmerge
  rw [hdocker, hvllm]
  constructor
  · exact (congrArg₂ (· ++ ·) hnone.runtimeDocker hnone.instanceDocker).trans (List.append_nil [])
  · exact (congrArg₂ (· ++ ·) hnone.runtimeBackend hnone.instanceBackend).trans (List.append_nil [])

theorem values_publish_args (hargs : buildDockerRunArgs merged = .ok dockerArgs) :
    values "-p" (pairs dockerArgs.tail)
      = [toString (hostPort (runtime.getD {}) (overrides.getD {})) ++ ":"
        ++ toString (runtime.getD {}).containerPort] := by
  obtain ⟨hdocker, -⟩ := mergeDockerConfig_ok hmerge
  rw [pairs_dockerArgs (extraArgs_nil hmerge hnone).1 hargs, CommandLine.values_append, hdocker,
    values_publish_merged]
  rfl

theorem values_port_args (deps : External) :
    values "--port" (pairs (buildVllmArgs deps merged))
      = if (runtime.getD {}).defaults.port > 0 then [toString (runtime.getD {}).defaults.port]
        else [] := by
  obtain ⟨-, hvllm⟩ := mergeDockerConfig_ok hmerge
  rw [pairs_vllmArgs deps (extraArgs_nil hmerge hnone).2, values_port, hvllm]
  rfl

end Read

/-! ### The theorem -/

/-- The port that leads into the container, the one that its backend listens on and the one that the start
reports. -/
structure Ports (deps : External) (merged : DockerPayload) (dockerArgs : List String)
    (host container : Nat) : Prop where
  published : values "-p" (pairs dockerArgs.tail) = [toString host ++ ":" ++ toString container]
  listens : values "--port" (pairs (buildVllmArgs deps merged)) = [toString container]
  reported : ∀ (env : Nat → Moment) (w : World) (url : String),
    (run env (startDockerContainer deps merged) w).1.baseUrl = some url →
      url = "http://127.0.0.1:" ++ toString host

/-- A start that reports an address reports the port of the node that is published first. -/
theorem baseUrl_startDockerContainer {deps : External} {merged : DockerPayload}
    {port : DockerPortMapping} {ports : List DockerPortMapping}
    (hports : merged.docker.ports = port :: ports) (env : Nat → Moment) (w : World) {url : String}
    (hurl : (run env (startDockerContainer deps merged) w).1.baseUrl = some url) :
    url = "http://127.0.0.1:" ++ toString port.host := by
  unfold startDockerContainer at hurl
  cases hargs : buildDockerRunArgs merged with
  | error message =>
      rw [hargs] at hurl
      cases hurl
  | ok dockerArgs =>
      rw [hargs] at hurl
      dsimp only at hurl
      rw [run_await_bind, run_pure] at hurl
      generalize (env w.now).answer _ = outcome at hurl
      cases outcome with
      | spawnFailed error => cases hurl
      | timedOut => cases hurl
      | exited success code stdout stderr =>
          cases success with
          | false => cases hurl
          | true =>
              have hreported : "http://127.0.0.1:"
                  ++ toString ((merged.docker.ports.head?.map (·.host)).getD 8000) = url :=
                Option.some.inj hurl
              rw [← hreported, hports]
              rfl

/-- The port that is published is the one that the backend listens on exactly when the two fields of the
runtime environment that name them agree. -/
theorem published_port_listens_iff (deps : External) {modelHostPath modelName : String}
    {runtime : Option DockerRuntimeConfig} {overrides : Option DockerInstanceOverrides}
    {merged : DockerPayload}
    (hmerge : mergeDockerConfig modelHostPath modelName runtime overrides = .ok merged)
    (hnone : NoExtraArgs (runtime.getD {}) (overrides.getD {})) :
    (∃ dockerArgs host container, buildDockerRunArgs merged = .ok dockerArgs ∧
        Ports deps merged dockerArgs host container)
      ↔ (runtime.getD {}).containerPort = (runtime.getD {}).defaults.port ∧
        0 < (runtime.getD {}).defaults.port := by
  have hport := values_port_args hmerge hnone deps
  obtain ⟨hdocker, -⟩ := mergeDockerConfig_ok hmerge
  constructor
  · rintro ⟨dockerArgs, host, container, hargs, hports⟩
    have hpublished := hports.published
    rw [values_publish_args hmerge hnone hargs] at hpublished
    obtain ⟨-, hcontainer⟩ := published_inj (List.singleton_inj.mp hpublished)
    have hlistens := hports.listens
    rw [hport] at hlistens
    by_cases hpos : (runtime.getD {}).defaults.port > 0
    · rw [if_pos hpos] at hlistens
      have hsame : (runtime.getD {}).defaults.port = container :=
        Nat.repr_injective (List.singleton_inj.mp hlistens)
      omega
    · rw [if_neg hpos] at hlistens
      cases hlistens
  · rintro ⟨hsame, hpos⟩
    have himage : Text.isBlank merged.docker.image = false := by
      rw [hdocker]
      exact image_of_merge hmerge
    have hvalid : merged.docker.extraDockerArgs.forM validateDockerArg = .ok () := by
      rw [(extraArgs_nil hmerge hnone).1]
      rfl
    have hargs := buildDockerRunArgs_eq_ok_iff.mpr ⟨himage, hvalid, rfl⟩
    refine ⟨_, hostPort (runtime.getD {}) (overrides.getD {}), (runtime.getD {}).containerPort,
      hargs, values_publish_args hmerge hnone hargs, ?_, fun env w url hurl => ?_⟩
    · rw [hport, if_pos hpos, hsame]
    · have hfirst : merged.docker.ports
          = [{ host := hostPort (runtime.getD {}) (overrides.getD {})
               container := (runtime.getD {}).containerPort }] := by
        rw [hdocker]
        rfl
      exact baseUrl_startDockerContainer hfirst env w hurl

/-! ### A port that leads nowhere -/

/-- The container port is set, and the port of the backend is left at its default. -/
theorem published_port_silent : ∃ merged,
    mergeDockerConfig "/data/qwen" "qwen" (some { image := "vllm", containerPort := 9000 }) none
      = .ok merged ∧
    ¬ ∃ dockerArgs host container, buildDockerRunArgs merged = .ok dockerArgs ∧
      Ports noExternal merged dockerArgs host container := by
  refine ⟨_, rfl, ?_⟩
  rintro ⟨dockerArgs, host, container, hargs, hports⟩
  have hpublished := hports.published
  rw [← Except.ok.inj hargs] at hpublished
  have htext : toString 19000 ++ ":" ++ toString 9000 = toString host ++ ":" ++ toString container :=
    List.singleton_inj.mp hpublished
  obtain ⟨-, hcontainer⟩ := published_inj htext
  have hlistens : ["8000"] = [toString container] := hports.listens
  rw [← hcontainer] at hlistens
  exact absurd hlistens (by decide)

theorem published_port_heard : ∃ merged,
    mergeDockerConfig "/data/qwen" "qwen" (some { image := "vllm" }) (some { hostPort := 18001 })
      = .ok merged ∧
    ∃ dockerArgs host container, buildDockerRunArgs merged = .ok dockerArgs ∧
      Ports noExternal merged dockerArgs host container := by
  have hmerge : ∃ merged, mergeDockerConfig "/data/qwen" "qwen" (some { image := "vllm" })
      (some { hostPort := 18001 }) = .ok merged := ⟨_, rfl⟩
  obtain ⟨merged, hmerged⟩ := hmerge
  refine ⟨merged, hmerged, ?_⟩
  refine (published_port_listens_iff noExternal hmerged ⟨rfl, rfl, rfl, rfl⟩).mpr ⟨rfl, ?_⟩
  exact (by decide : 0 < 8000)

end LightAI.Agent

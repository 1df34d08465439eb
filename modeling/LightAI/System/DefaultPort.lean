import LightAI.Agent.PublishedPort
import LightAI.Base.MachineSum
import LightAI.System.RunningImage

/-!
# The port that a container gets by default

An instance that names no port of the node gets one that is computed from the port inside the container: ten
thousand is added to it. Both are numbers of 16 bits, and the parameters of the runtime environment may name
any. What the start tells docker and what it reports is the port that the sum gives.
-/

namespace LightAI.System

open LightAI.Agent (World Moment DockerRuntimeConfig DockerInstanceOverrides DockerPayload
  mergeDockerConfig mergeDockerConfig_ok mergedDocker buildDockerRunArgs startDockerContainer dockerOptions)

open MachineSum (Build)

/-! ### The sum -/

/-- `merge_docker_config` as it is built. Of what it returns only the port depends on the sum, which comes
after everything that it refuses. -/
def mergeDockerConfigIn (build : Build) (modelHostPath modelName : String)
    (runtime : Option DockerRuntimeConfig) (overrides : Option DockerInstanceOverrides) :
    Option (Except String DockerPayload) :=
  match mergeDockerConfig modelHostPath modelName runtime overrides with
  | .error message => some (.error message)
  | .ok merged =>
      if (overrides.getD {}).hostPort > 0 then some (.ok merged)
      else
        (MachineSum.add build 16 (runtime.getD {}).containerPort 10000).map fun port =>
          let mapping := { host := port, container := (runtime.getD {}).containerPort }
          .ok { merged with docker := { merged.docker with ports := [mapping] } }

section Merge

variable {modelHostPath modelName : String} {runtime : Option DockerRuntimeConfig}
  {overrides : Option DockerInstanceOverrides} {merged : DockerPayload}

theorem mergeDockerConfigIn_release :
    mergeDockerConfigIn .release modelHostPath modelName runtime overrides
      = some (mergeDockerConfig modelHostPath modelName runtime overrides) := by
  unfold mergeDockerConfigIn
  cases hmerge : mergeDockerConfig modelHostPath modelName runtime overrides with
  | error message => rfl
  | ok merged =>
      dsimp only
      by_cases hport : (overrides.getD {}).hostPort > 0
      · rw [if_pos hport]
      · rw [if_neg hport]
        obtain ⟨hdocker, -⟩ := mergeDockerConfig_ok hmerge
        have hports : merged.docker.ports
            = [{ host := ((runtime.getD {}).containerPort + 10000) % 2 ^ 16
                 container := (runtime.getD {}).containerPort }] := by
          rw [hdocker]
          simp only [mergedDocker, Agent.hostPort, Agent.defaultHostPort, if_neg hport]
        rw [MachineSum.add, Option.map_some, ← hports]

end Merge

/-! ### What becomes of the port -/

/-- The port is published on the command line, and it is the one that a start reports. -/
structure Carries (deps : Agent.External) (merged : DockerPayload) (port container : Nat) : Prop where
  published : ∀ dockerArgs, buildDockerRunArgs merged = .ok dockerArgs →
    ["-p", toString port ++ ":" ++ toString container] <:+: dockerArgs
  reported : ∀ (env : Nat → Moment) (w : World) (url : String),
    (Agent.run env (startDockerContainer deps merged) w).1.baseUrl = some url →
      url = "http://127.0.0.1:" ++ toString port

theorem carries_of_ports (deps : Agent.External) {merged : DockerPayload} {port container : Nat}
    (hports : merged.docker.ports = [{ host := port, container }]) : Carries deps merged port container where
  published dockerArgs hargs := by
    obtain ⟨-, -, hbuilt⟩ := Agent.buildDockerRunArgs_eq_ok_iff.mp hargs
    have hoption : CommandLine.arguments (CommandLine.repeated "-p" (merged.docker.ports.map Agent.portText))
        = ["-p", toString port ++ ":" ++ toString container] := by
      rw [hports]
      rfl
    have hinfix : ["-p", toString port ++ ":" ++ toString container]
        <:+: CommandLine.arguments (dockerOptions merged.docker) := by
      unfold dockerOptions
      simp only [CommandLine.arguments_append, List.append_assoc]
      rw [hoption]
      iterate 3 apply List.infix_append_of_infix_right
      exact (List.prefix_append _ _).isInfix
    rw [hbuilt, List.append_assoc]
    exact List.infix_cons (List.infix_append_of_infix_left hinfix)
  reported env w url hurl := Agent.baseUrl_startDockerContainer hports env w hurl

/-- The configuration gets a port that a container can be given, however the agent is built. -/
def DefaultPortValid (deps : Agent.External) (modelHostPath modelName : String) (rt : DockerRuntimeConfig)
    (overrides : Option DockerInstanceOverrides) : Prop :=
  ∃ port, 0 < port ∧ port < 2 ^ 16 ∧ ∀ build, ∃ merged,
    mergeDockerConfigIn build modelHostPath modelName (some rt) overrides = some (.ok merged) ∧
      Carries deps merged port rt.containerPort

section Valid

variable {deps : Agent.External} {modelHostPath modelName : String} {rt : DockerRuntimeConfig}
  {overrides : Option DockerInstanceOverrides}

/-- With overflow checks the sum has to fit. -/
theorem fits_of_valid (hdefault : (overrides.getD {}).hostPort = 0)
    (hvalid : DefaultPortValid deps modelHostPath modelName rt overrides) :
    rt.containerPort + 10000 < 2 ^ 16 := by
  obtain ⟨port, -, -, hbuilds⟩ := hvalid
  obtain ⟨merged, hmerged, -⟩ := hbuilds .debug
  unfold mergeDockerConfigIn at hmerged
  cases hmerge : mergeDockerConfig modelHostPath modelName (some rt) overrides with
  | error message =>
      rw [hmerge] at hmerged
      cases Option.some.inj hmerged
  | ok merged' =>
      rw [hmerge] at hmerged
      dsimp only at hmerged
      rw [if_neg (by omega)] at hmerged
      obtain ⟨sum, hsum, -⟩ := Option.map_eq_some_iff.mp hmerged
      exact (MachineSum.add_debug_eq_some_iff.mp hsum).1

theorem valid_of_fits (hdefault : (overrides.getD {}).hostPort = 0)
    (hmergeable : Mergeable modelHostPath modelName rt (overrides.getD {}))
    (hfits : rt.containerPort + 10000 < 2 ^ 16) :
    DefaultPortValid deps modelHostPath modelName rt overrides := by
  have hmerges : ∃ merged, mergeDockerConfig modelHostPath modelName (some rt) overrides = .ok merged ∧
      merged.docker.image = rt.image ∧
      merged.docker.extraDockerArgs = rt.extraDockerArgs ++ (overrides.getD {}).extraDockerArgs :=
    merge_of_mergeable hmergeable
  obtain ⟨merged, hmerge, -⟩ := hmerges
  refine ⟨rt.containerPort + 10000, by omega, hfits, ?_⟩
  intro build
  have hmerged : mergeDockerConfigIn build modelHostPath modelName (some rt) overrides
      = some (.ok { merged with docker := { merged.docker with
          ports := [{ host := rt.containerPort + 10000, container := rt.containerPort }] } }) := by
    unfold mergeDockerConfigIn
    rw [hmerge]
    dsimp only
    rw [if_neg (by omega), Option.getD_some, MachineSum.add_of_fits hfits]
    rfl
  exact ⟨_, hmerged, carries_of_ports deps rfl⟩

end Valid

/-- A configuration that can be merged, for an instance that names no port, gets a valid one exactly if the
port inside the container is at most 55535. -/
theorem default_port_valid_iff (deps : Agent.External) {modelHostPath modelName : String}
    {rt : DockerRuntimeConfig} {overrides : Option DockerInstanceOverrides}
    (hdefault : (overrides.getD {}).hostPort = 0)
    (hmergeable : Mergeable modelHostPath modelName rt (overrides.getD {})) :
    DefaultPortValid deps modelHostPath modelName rt overrides ↔ rt.containerPort ≤ 55535 := by
  constructor
  · intro hvalid
    have hfits := fits_of_valid hdefault hvalid
    omega
  · intro hport
    exact valid_of_fits hdefault hmergeable (by omega)

/-- The port inside the container is left at its default. -/
theorem default_port_valid_iff_example :
    DefaultPortValid Agent.noExternal "/data/qwen" "qwen" { image := "vllm" } none := by
  refine (default_port_valid_iff Agent.noExternal rfl ⟨?_, ?_, ?_⟩).mpr ?_
  · decide
  · decide
  · decide
  · exact (by decide : 8000 ≤ 55535)

/-- The parameters name a port that is too high: an agent that checks for overflow panics, and another gives
the container port 0 of the node. -/
theorem default_port_overflows :
    ¬∀ (deps : Agent.External) (source : Json) (rt : DockerRuntimeConfig)
      (overrides : Option DockerInstanceOverrides) (modelHostPath modelName : String),
      DockerRuntimeConfig.fromJson source = some rt → (overrides.getD {}).hostPort = 0 →
      Mergeable modelHostPath modelName rt (overrides.getD {}) →
      DefaultPortValid deps modelHostPath modelName rt overrides := by
  intro h
  have hvalid := h Agent.noExternal (.obj [("image", .str "vllm"), ("container_port", .int 55536)])
    { image := "vllm", containerPort := 55536 } none "/data/qwen" "qwen" rfl rfl ⟨rfl, rfl, rfl⟩
  have hfits := fits_of_valid rfl hvalid
  exact absurd hfits (by decide)

end LightAI.System

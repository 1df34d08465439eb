import LightAI.Agent.Reachable

/-!
# The names of containers

A container is run without `--rm`, so that it can still be inspected after it has ended, and nothing in
the agent removes one. A container that has been stopped therefore keeps its name, and a later
`docker run` cannot have it.
-/

namespace LightAI.Agent

/-! ### The `docker run`s of a start -/

def Op.dockerRun? (t : Nat) : Op → List (List String × Nat)
  | .call (.dockerRun args) => [(args, t)]
  | _ => []

/-- The arguments of each `docker run` that a program issues, and the moment of it. -/
def dockerRunsOf {α : Type} (env : Nat → Moment) (program : Async α) (w : World) :
    List (List String × Nat) :=
  program.emits (Op.exec env) (fun op w => op.dockerRun? w.now) w

section DockerRuns

variable {α β : Type} {deps : External} {env : Nat → Moment}

theorem dockerRunsOf_bind (program : Async α) (f : α → Async β) (w : World) :
    dockerRunsOf env (program >>= f) w
      = dockerRunsOf env program w
        ++ dockerRunsOf env (f (run env program w).1) (run env program w).2 :=
  Program.emits_bind _ _ program f w

/-- The operation is not a `docker run`. -/
def Op.noDockerRun : Op → Prop
  | .call (.dockerRun _) => False
  | _ => True

theorem dockerRunsOf_eq_nil {program : Async α} (h : program.Performs Op.noDockerRun) (w : World) :
    dockerRunsOf env program w = [] := by
  refine h.emits_eq_nil (fun op w hop => ?_) w
  cases op with
  | call c =>
      cases c with
      | dockerRun args => exact hop.elim
      | _ => rfl
  | _ => rfl

theorem noDockerRun_of_startsChild {op : Op} (h : op.startsChild) : op.noDockerRun := by
  cases op with
  | call c =>
      cases c with
      | dockerRun args => exact h
      | _ => trivial
  | _ => trivial

/-- A start issues one `docker run`, if it is one of a container and its arguments can be built. -/
theorem dockerRunsOf_handleStart (payload : Json) (w : World) :
    dockerRunsOf env (handleStart deps payload) w
      = if payloadText payload "deploy_type" = "docker" then
          ((dockerRunArgs deps payload).toOption.map fun args => (args, w.now)).toList
        else [] := by
  unfold handleStart startModelInstanceWithStore
  dsimp only
  by_cases hdocker : payloadText payload "deploy_type" = "docker"
  · rw [if_pos hdocker, if_pos hdocker]
    have hcontainer : dockerRunsOf env (startDockerContainer deps (resolveDockerPayload deps payload)) w
        = ((dockerRunArgs deps payload).toOption.map fun args => (args, w.now)).toList := by
      unfold startDockerContainer dockerRunArgs
      dsimp only
      cases buildDockerRunArgs (resolveDockerPayload deps payload) with
      | error message => rfl
      | ok dockerArgs => rfl
    have hrecord : ∀ result : ModelInstanceTaskResult, Program.Performs Op.noDockerRun
        (if result.instanceStatus = "running" then
          writeContainerRecord (payloadText payload "instance_id")
            (resolveDockerPayload deps payload).docker.containerName true result
        else pure result) := by
      intro result
      split
      · exact (follows_writeContainerRecord ..).mono fun _ hop =>
          noDockerRun_of_startsChild (startsChild_of_follows hop)
      · trivial
    unfold startDockerInstance
    dsimp only
    rw [dockerRunsOf_bind, hcontainer, dockerRunsOf_eq_nil (hrecord _), List.append_nil]
  · rw [if_neg hdocker, if_neg hdocker]
    split
    · exact dockerRunsOf_eq_nil ((startsChild_startOllamaInstance deps payload).mono fun _ hop =>
        noDockerRun_of_startsChild hop.1) w
    · exact dockerRunsOf_eq_nil ((startsChild_startLocalInstance ..).mono fun _ =>
        noDockerRun_of_startsChild) w

end DockerRuns

/-! ### Runs of starts and stops -/

/-- A container that a start of an instance has created. -/
structure StartedContainer where
  instanceId : String
  containerId : String
  args : List String

/-- A `docker run` that has been issued, and the containers that earlier starts of the instance had
created. -/
structure IssuedRun where
  args : List String
  t : Nat
  earlier : List StartedContainer

structure ContainerState where
  world : World
  containers : List StartedContainer := []
  issued : List IssuedRun := []

section Runs

variable (deps : External) (env : Nat → Moment)

def containerStep (s : ContainerState) (event : TaskEvent) : ContainerState :=
  let world := (taskStep deps env { world := s.world } event).world
  match event with
  | .start payload =>
      let instanceId := payloadText payload "instance_id"
      let runs := dockerRunsOf env (handleStart deps payload) s.world
      { world
        containers := s.containers ++ runs.filterMap fun (args, t) =>
          ((env t).created args).map fun containerId => { instanceId, containerId, args }
        issued := s.issued ++ runs.map fun (args, t) =>
          { args, t, earlier := s.containers.filter (·.instanceId = instanceId) } }
  | _ => { s with world }

/-- What is documented of docker: a container that is created under a name has it, and a name is held only
by the container that has it. `asked` is the name that the arguments of a `docker run` ask for, and
`nameOf` is the name of a container. -/
structure DockerNames (asked : List String → Option String) (nameOf : String → String) : Prop where
  named {t : Nat} {args : List String} {containerId name : String}
    (hcreated : (env t).created args = some containerId) (hasked : asked args = some name) :
    nameOf containerId = name
  held {t : Nat} {containerId name : String} (hheld : (env t).nameHolder name = some containerId) :
    nameOf containerId = name

variable (asked : List String → Option String) (nameOf : String → String)

/-- No `docker run` has asked for a name that a stopped container of an earlier start of the instance
held. -/
def NamesFree (s : ContainerState) : Prop :=
  ∀ issued ∈ s.issued, ∀ name, asked issued.args = some name →
    ∀ c ∈ issued.earlier, (env issued.t).nameHolder name = some c.containerId →
      (env issued.t).containers c.containerId = true

/-- A start that asks for a name does not ask for one that an earlier start of the instance has asked
for, nor for the one that docker has given to a container of which the start has asked for none. -/
def AsksNewName (s : ContainerState) : TaskEvent → Prop
  | .start payload =>
      payloadText payload "deploy_type" = "docker" →
        ∀ args name, dockerRunArgs deps payload = .ok args → asked args = some name →
          ∀ c ∈ s.containers, c.instanceId = payloadText payload "instance_id" →
            (asked c.args).getD (nameOf c.containerId) ≠ name
  | _ => True

end Runs

/-! ### The theorem -/

section Keep

variable {deps : External} {env : Nat → Moment} {asked : List String → Option String}
  {nameOf : String → String} {s : ContainerState}

/-- The names are free so far, and the containers that are known have been created as is written. -/
structure ContainersKnown (env : Nat → Moment) (asked : List String → Option String)
    (s : ContainerState) : Prop where
  created {c : StartedContainer} (hmem : c ∈ s.containers) :
    ∃ t, (env t).created c.args = some c.containerId
  free : NamesFree env asked s

/-- The name that a container of an earlier start has. -/
theorem DockerNames.name_of_started (hdocker : DockerNames env asked nameOf)
    (h : ContainersKnown env asked s) {c : StartedContainer} (hmem : c ∈ s.containers) :
    (asked c.args).getD (nameOf c.containerId) = nameOf c.containerId := by
  obtain ⟨t, hcreated⟩ := h.created hmem
  cases hasked : asked c.args with
  | none => rfl
  | some name => exact (hdocker.named hcreated hasked).symm

theorem known_start (hdocker : DockerNames env asked nameOf) (h : ContainersKnown env asked s)
    {payload : Json} (hnew : AsksNewName deps asked nameOf s (.start payload)) :
    ContainersKnown env asked (containerStep deps env s (.start payload)) := by
  unfold AsksNewName at hnew
  unfold containerStep
  dsimp only
  constructor
  · intro c hmem
    rcases List.mem_append.mp hmem with hold | hstarted
    · exact h.created hold
    · obtain ⟨⟨args, t⟩, -, hc⟩ := List.mem_filterMap.mp hstarted
      obtain ⟨containerId, hcreated, rfl⟩ := Option.map_eq_some_iff.mp hc
      exact ⟨t, hcreated⟩
  · intro issued hissued name hasked c hearlier hheld
    rcases List.mem_append.mp hissued with hold | hrun
    · exact h.free issued hold name hasked c hearlier hheld
    · obtain ⟨⟨args, t⟩, hmem, rfl⟩ := List.mem_map.mp hrun
      rw [dockerRunsOf_handleStart] at hmem
      by_cases hdeploy : payloadText payload "deploy_type" = "docker"
      · rw [if_pos hdeploy] at hmem
        cases hargs : dockerRunArgs deps payload with
        | error message =>
            rw [hargs] at hmem
            cases hmem
        | ok built =>
            rw [hargs] at hmem
            obtain ⟨hsame, -⟩ := Prod.mk.inj (List.mem_singleton.mp hmem)
            obtain ⟨hstarted, hinstance⟩ := List.mem_filter.mp hearlier
            have hother := hnew hdeploy built name hargs (hsame ▸ hasked) c hstarted
              (of_decide_eq_true hinstance)
            rw [hdocker.name_of_started h hstarted] at hother
            exact absurd (hdocker.held hheld) hother
      · rw [if_neg hdeploy] at hmem
        cases hmem

theorem known_step (hdocker : DockerNames env asked nameOf) (h : ContainersKnown env asked s)
    {event : TaskEvent} (hnew : AsksNewName deps asked nameOf s event) :
    ContainersKnown env asked (containerStep deps env s event) := by
  cases event with
  | start payload => exact known_start hdocker h hnew
  | stop payload => exact ⟨h.created, h.free⟩
  | monitor instanceId => exact ⟨h.created, h.free⟩
  | restart => exact ⟨h.created, h.free⟩
  | pause => exact ⟨h.created, h.free⟩

end Keep

/-! ### A container that is started, stopped and started again -/

/-- The name that follows `docker run --name`. -/
def firstName : List String → Option String
  | "run" :: "--name" :: name :: _ => some name
  | _ => none

def nameParams (name : String) : Json := .obj [("container_name", .str name)]

/-- The parameters of an instance with a container name of its own. -/
def nameText (name : String) : String := "\x7b\"container_name\":\"" ++ name ++ "\"\x7d"

/-- Two texts of parameters can be parsed. -/
def namedParams : External :=
  { noExternal with
    jsonFromStr text :=
      if text = nameText "qwen" then some (nameParams "qwen")
      else if text = nameText "qwen-2" then some (nameParams "qwen-2")
      else none }

def containerPayload (name : String) : Json :=
  .obj [("instance_id", .str "i"), ("deploy_type", .str "docker"), ("model_path", .str "/models/qwen"),
    ("model_name", .str "qwen"), ("runtime_params", .obj [("image", .str "vllm/vllm-openai")]),
    ("params_json", .str (nameText name))]

/-- The first `docker run --name qwen` creates a container, which runs until it is stopped and then keeps
its name. -/
def keptContainer (now : Nat) : Moment where
  processes _ := none
  containers containerRef := containerRef = "c1" && 0 < now && now < 6
  nameHolder name := if name = "qwen" ∧ 0 < now then some "c1" else none
  created args := if now = 0 ∧ firstName args = some "qwen" then some "c1" else none
  fileError _ := none
  answer
    | .dockerRun _ =>
        if now = 0 then .exited true "exit status: 0" "c1" ""
        else .exited false "exit status: 125" "" "Conflict. The container name is already in use"
    | .dockerStop _ => .exited true "exit status: 0" "c1" ""
    | other => other.failed

theorem keptContainer_names : DockerNames keptContainer firstName fun _ => "qwen" where
  named {t args containerId name} hcreated hasked := by
    have hcreated' : (if t = 0 ∧ firstName args = some "qwen" then some "c1" else none)
        = some containerId := hcreated
    by_cases hcase : t = 0 ∧ firstName args = some "qwen"
    · exact Option.some.inj (hcase.2.symm.trans hasked)
    · rw [if_neg hcase] at hcreated'
      cases hcreated'
  held {t containerId name} hheld := by
    have hheld' : (if name = "qwen" ∧ 0 < t then some "c1" else none) = some containerId := hheld
    by_cases hcase : name = "qwen" ∧ 0 < t
    · exact hcase.1.symm
    · rw [if_neg hcase] at hheld'
      cases hheld'

end LightAI.Agent

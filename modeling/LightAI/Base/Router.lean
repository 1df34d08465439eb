import LightAI.Base.Text

/-!
# Routers

A router finds the handler of a path and a method in a table of patterns. A pattern is a list of
segments, each fixed or a parameter that stands for any text but the empty one.
-/

namespace Router

inductive Segment where
  | literal (text : String)
  | param
  deriving DecidableEq

/-- A part of a pattern as it is written, parameters with a colon. -/
def segment (part : String) : Segment :=
  if part.toList.head? = some ':' then .param else .literal part

structure Route (Method Endpoint : Type) where
  pattern : List Segment
  methods : List (Method × Endpoint)
  deriving DecidableEq

def route {Method Endpoint : Type} (parts : List String) (methods : List (Method × Endpoint)) :
    Route Method Endpoint :=
  { pattern := parts.map segment, methods }

/-- The segments of a path, of which the first is empty if the path starts with a slash. -/
def segments (path : String) : List String := (path.toList.splitOn '/').map String.ofList

/-- The texts of the parameters, if the segments match the pattern. -/
def matchSegments : List Segment → List String → Option (List String)
  | [], [] => some []
  | .literal text :: pattern, part :: parts =>
      if part = text then matchSegments pattern parts else none
  | .param :: pattern, part :: parts =>
      if part = "" then none else (matchSegments pattern parts).map (part :: ·)
  | _, _ => none

/-- The path without its leading slash matches the pattern. -/
def matchPath (pattern : List Segment) (path : String) : Option (List String) :=
  match segments path with
  | "" :: parts => matchSegments pattern parts
  | _ => none

variable {Method Endpoint : Type} [DecidableEq Method]

/-- The handler of the first route that matches, with its parameters, if it has one for the method. -/
def lookup (routes : List (Route Method Endpoint)) (method : Method) (path : String) :
    Option (Endpoint × List String) := do
  let (route, params) ← routes.findSome? fun route =>
    (matchPath route.pattern path).map fun params => (route, params)
  let entry ← route.methods.find? fun entry => entry.1 = method
  pure (entry.2, params)

theorem matchSegments_literal {text : String} {pattern : List Segment} {parts params : List String}
    (hmatch : matchSegments (.literal text :: pattern) parts = some params) :
    ∃ rest, parts = text :: rest ∧ matchSegments pattern rest = some params := by
  cases parts with
  | nil => cases hmatch
  | cons part rest =>
      unfold matchSegments at hmatch
      by_cases hpart : part = text
      · rw [if_pos hpart] at hmatch
        exact ⟨rest, by rw [hpart], hmatch⟩
      · rw [if_neg hpart] at hmatch
        cases hmatch

theorem matchSegments_param {pattern : List Segment} {parts params : List String}
    (hmatch : matchSegments (.param :: pattern) parts = some params) :
    ∃ part rest tail, parts = part :: rest ∧ part ≠ "" ∧ matchSegments pattern rest = some tail
      ∧ params = part :: tail := by
  cases parts with
  | nil => cases hmatch
  | cons part rest =>
      unfold matchSegments at hmatch
      by_cases hpart : part = ""
      · rw [if_pos hpart] at hmatch
        cases hmatch
      · rw [if_neg hpart] at hmatch
        obtain ⟨tail, htail, hparams⟩ := Option.map_eq_some_iff.mp hmatch
        exact ⟨part, rest, tail, rfl, hpart, htail, hparams.symm⟩

theorem matchSegments_nil {parts params : List String} (hmatch : matchSegments [] parts = some params) :
    parts = [] ∧ params = [] := by
  cases parts with
  | nil => exact ⟨rfl, (Option.some.inj hmatch).symm⟩
  | cons part rest => cases hmatch

theorem matchPath_segments {pattern : List Segment} {path : String} {params : List String}
    (hmatch : matchPath pattern path = some params) :
    ∃ parts, segments path = "" :: parts ∧ matchSegments pattern parts = some params := by
  unfold matchPath at hmatch
  split at hmatch
  · rename_i parts hsegments
    exact ⟨parts, hsegments, hmatch⟩
  · cases hmatch

/-- A path is its segments with slashes between them. -/
theorem toList_of_segments {path : String} {first : String} {rest : List String}
    (hsegments : segments path = first :: rest) :
    path.toList = first.toList ++ rest.flatMap fun part => '/' :: part.toList := by
  have hjoined : ['/'].intercalate ((segments path).map String.toList) = path.toList := by
    unfold segments
    rw [List.map_map]
    have hid : (String.toList ∘ String.ofList) = id := by
      funext text
      exact String.toList_ofList
    rw [hid, List.map_id]
    exact List.intercalate_splitOn '/'
  rw [hsegments, List.map_cons] at hjoined
  rw [← hjoined]
  clear hjoined hsegments
  induction rest generalizing first with
  | nil => simp [List.intercalate]
  | cons part rest ih =>
      rw [List.map_cons, List.intercalate_cons_cons, ih, List.flatMap_cons]
      simp

/-- What a path that matches starts with. -/
theorem startsWith_of_matchPath {first second path : String} {pattern : List Segment}
    {params : List String}
    (hmatch : matchPath (.literal first :: .literal second :: pattern) path = some params) :
    Text.startsWith path ("/" ++ first ++ "/" ++ second) = true := by
  obtain ⟨parts, hsegments, hparts⟩ := matchPath_segments hmatch
  obtain ⟨rest, rfl, hrest⟩ := matchSegments_literal hparts
  obtain ⟨rest', rfl, -⟩ := matchSegments_literal hrest
  unfold Text.startsWith
  rw [List.isPrefixOf_iff_prefix, toList_of_segments hsegments]
  simp only [List.flatMap_cons, String.toList_append]
  refine ⟨rest'.flatMap fun part => '/' :: part.toList, ?_⟩
  simp

theorem lookup_some {routes : List (Route Method Endpoint)} {method : Method} {path : String}
    {endpoint : Endpoint} {params : List String}
    (hlookup : lookup routes method path = some (endpoint, params)) :
    ∃ route ∈ routes, (method, endpoint) ∈ route.methods
      ∧ matchPath route.pattern path = some params := by
  unfold lookup at hlookup
  simp only [Option.bind_eq_bind, Option.bind_eq_some_iff, Option.pure_def, Option.some.injEq,
    Prod.exists, Prod.mk.injEq] at hlookup
  obtain ⟨route, params', hfound, entryMethod, entryEndpoint, hentry, rfl, rfl⟩ := hlookup
  obtain ⟨_, hroute, hmatch⟩ := List.exists_of_findSome?_eq_some hfound
  obtain ⟨params'', hparams, hpair⟩ := Option.map_eq_some_iff.mp hmatch
  cases hpair
  have hmethod : entryMethod = method := by simpa using List.find?_some hentry
  exact ⟨route, hroute, hmethod ▸ List.mem_of_find?_eq_some hentry, hparams⟩

/-! ### Patterns that no path distinguishes -/

/-- Some path may match both patterns. -/
def overlaps : List Segment → List Segment → Bool
  | [], [] => true
  | .literal text :: pattern, .literal text' :: pattern' =>
      text = text' && overlaps pattern pattern'
  | .literal _ :: pattern, .param :: pattern' => overlaps pattern pattern'
  | .param :: pattern, _ :: pattern' => overlaps pattern pattern'
  | _, _ => false

theorem overlaps_of_matchSegments {pattern pattern' : List Segment}
    {parts params params' : List String} (hmatch : matchSegments pattern parts = some params)
    (hmatch' : matchSegments pattern' parts = some params') : overlaps pattern pattern' = true := by
  induction pattern generalizing pattern' parts params params' with
  | nil =>
      obtain ⟨rfl, -⟩ := matchSegments_nil hmatch
      cases pattern' with
      | nil => rfl
      | cons first rest => cases first <;> cases hmatch'
  | cons first pattern ih =>
      cases first with
      | literal text =>
          obtain ⟨rest, rfl, hrest⟩ := matchSegments_literal hmatch
          cases pattern' with
          | nil => cases hmatch'
          | cons first' pattern' =>
              cases first' with
              | literal text' =>
                  obtain ⟨rest', hparts, hrest'⟩ := matchSegments_literal hmatch'
                  obtain ⟨rfl, rfl⟩ := List.cons.inj hparts
                  exact Bool.and_eq_true_iff.mpr ⟨decide_eq_true rfl, ih hrest hrest'⟩
              | param =>
                  obtain ⟨part, rest', tail, hparts, -, hrest', -⟩ := matchSegments_param hmatch'
                  obtain ⟨-, rfl⟩ := List.cons.inj hparts
                  exact ih hrest hrest'
      | param =>
          obtain ⟨part, rest, tail, rfl, -, hrest, -⟩ := matchSegments_param hmatch
          cases pattern' with
          | nil => cases hmatch'
          | cons first' pattern' =>
              cases first' with
              | literal text' =>
                  obtain ⟨rest', hparts, hrest'⟩ := matchSegments_literal hmatch'
                  obtain ⟨-, rfl⟩ := List.cons.inj hparts
                  exact ih hrest hrest'
              | param =>
                  obtain ⟨part', rest', tail', hparts, -, hrest', -⟩ := matchSegments_param hmatch'
                  obtain ⟨-, rfl⟩ := List.cons.inj hparts
                  exact ih hrest hrest'

/-- A route that overlaps with no other is found by the paths that match it. -/
theorem lookup_of_match {routes : List (Route Method Endpoint)} {found : Route Method Endpoint}
    {method : Method} {endpoint : Endpoint} {path : String} {params : List String}
    (hroute : found ∈ routes)
    (hunique : ∀ other ∈ routes, overlaps other.pattern found.pattern = true → other = found)
    (hmatch : matchPath found.pattern path = some params)
    (hentry : found.methods.find? (fun entry => entry.1 = method) = some (method, endpoint)) :
    lookup routes method path = some (endpoint, params) := by
  obtain ⟨parts, hsegments, hparts⟩ := matchPath_segments hmatch
  have hfirst : routes.findSome? (fun route =>
      (matchPath route.pattern path).map fun params => (route, params)) = some (found, params) := by
    cases hfind : routes.findSome? fun route =>
        (matchPath route.pattern path).map fun params => (route, params) with
    | none =>
        have hnone := List.findSome?_eq_none_iff.mp hfind found hroute
        rw [hmatch] at hnone
        cases hnone
    | some result =>
        obtain ⟨other, hother, hpair⟩ := List.exists_of_findSome?_eq_some hfind
        obtain ⟨params', hmatch', rfl⟩ := Option.map_eq_some_iff.mp hpair
        obtain ⟨parts', hsegments', hparts'⟩ := matchPath_segments hmatch'
        rw [hsegments] at hsegments'
        obtain ⟨-, rfl⟩ := List.cons.inj hsegments'
        obtain rfl := hunique other hother (overlaps_of_matchSegments hparts' hparts)
        rw [hmatch] at hmatch'
        rw [Option.some.inj hmatch']
  unfold lookup
  rw [hfirst]
  change (found.methods.find? fun entry => entry.1 = method).bind _ = _
  rw [hentry]
  rfl

end Router

import InvocationRouting.Proofs.Merge.Precedence
import InvocationRouting.Proofs.Route.History

/-!
# Proofs.Merge.FullDictionary — the names of a route among its values

The full dictionary of a route has its two names over the route values, each under a key that the
caller chooses. The names themselves come from the target and its constraints. What a caller passes
for arguments, or a registration for defaults, may well be written under the same keys, and is then
overwritten.

* `RouteValues.size_insert` : one write adds an entry exactly if its key is new;
* `Route.get?_dictionaryWith`, `Route.spelling?_dictionaryWith` : both views of a full dictionary;
* `Route.size_dictionaryWith` : how many entries the names add;
* `Merger.names_cannot_be_forged` : full dictionaries of merged routes.
-/

namespace InvocationRouting

/-! ## One write -/

namespace RouteValues

theorem size_insert (values : RouteValues) (key : String) (value : Value) :
    (values.insert key value).size = values.size + if values.contains key then 0 else 1 := by
  have length (values : RouteValues) :
      (RouteEntry.foldedKeys values.entries).length = values.size := List.length_map _
  have folded := congrArg List.length (RouteEntry.foldedKeys_set key value values.entries)
  rw [← length, ← length]
  by_cases known : values.contains key = true
  · rw [if_pos (contains_iff.1 known)] at folded
    rw [if_pos known]
    exact folded
  · rw [if_neg fun member => known (contains_iff.2 member), List.length_append] at folded
    rw [if_neg known]
    exact folded

/-- The folded keys, each once, that a dictionary does not have. -/
def missing (values : RouteValues) (keys : List String) : List (List Char) :=
  ((keys.filter fun key => !values.contains key).map RouteKey.folded).dedup

end RouteValues

/-! ## The full dictionary -/

namespace Route

variable (route : Route) (handlerKey actionKey key : String)

/-- The action name is written last, and so it counts before the handler name. -/
theorem get?_dictionaryWith :
    (route.dictionaryWith handlerKey actionKey).get? key =
      if RouteKey.same actionKey key then some (.string route.actionName)
      else if RouteKey.same handlerKey key then some (.string route.handlerName)
      else route.values.get? key := by
  rw [dictionaryWith, RouteValues.get?_insert, RouteValues.get?_insert]

/-- The spelling that is there stays; a key that is new takes that of the first name under it. -/
theorem spelling?_dictionaryWith :
    (route.dictionaryWith handlerKey actionKey).spelling? key =
      (route.values.spelling? key).or
        (if RouteKey.same handlerKey key then some handlerKey
          else if RouteKey.same actionKey key then some actionKey
          else none) := by
  rw [dictionaryWith, RouteValues.spelling?_insert, RouteValues.spelling?_insert]
  cases RouteKey.same actionKey key <;> cases RouteKey.same handlerKey key <;>
    cases route.values.spelling? key <;> rfl

theorem size_dictionaryWith :
    (route.dictionaryWith handlerKey actionKey).size =
      route.values.size + (route.values.missing [handlerKey, actionKey]).length := by
  rw [dictionaryWith, RouteValues.size_insert, RouteValues.size_insert,
    RouteValues.contains_insert, Nat.add_assoc]
  congr 1
  by_cases same : RouteKey.same handlerKey actionKey = true
  · -- Under one key there is at most one new entry.
    have together : route.values.contains handlerKey = route.values.contains actionKey := by
      rw [RouteValues.contains, RouteValues.contains, RouteValues.get?_congr same]
    have folded := RouteKey.same_iff.1 same
    cases known : route.values.contains actionKey <;>
      simp [RouteValues.missing, same, together, known, folded]
  · have folded : ¬ RouteKey.folded handlerKey = RouteKey.folded actionKey := by
      intro equal
      exact same (RouteKey.same_iff.2 equal)
    cases known : route.values.contains handlerKey <;>
      cases known' : route.values.contains actionKey <;>
        simp [RouteValues.missing, same, known, known', folded]

end Route

/-! ## Merged routes -/

namespace Merger

/-- Two targets with the same names and constraints lead to routes with the same names, whatever the
arguments and defaults. -/
theorem names_mergeInOrder_congr (merger : Merger) {target target' : DispatchTarget}
    (handlerName : target.handlerName = target'.handlerName)
    (actionName : target.actionName = target'.actionName)
    (constraints : target.constraints = target'.constraints)
    (arguments arguments' : List ArgumentValue) (order order' : List RouteEntry) :
    (merger.mergeInOrder target arguments order).handlerName =
        (merger.mergeInOrder target' arguments' order').handlerName ∧
      (merger.mergeInOrder target arguments order).actionName =
        (merger.mergeInOrder target' arguments' order').actionName := by
  constructor
  · simp only [mergeInOrder, applyConstraints_handlerName, handlerName, constraints]
  · simp only [mergeInOrder, applyConstraints_actionName, actionName, constraints]

/-- **Names cannot be forged.** Take any merger, any target and any arguments, with the defaults in
whatever order, and put the names of the merged route under any two keys.

* The action name stands under its key, and the handler name under its own unless the keys are one;
* under every other key there are the value and the spelling of the route value;
* where there was a route value its spelling is kept;
* there are as many new entries as there are keys, counted without regard to spelling, that had no
  route value;
* other arguments and other defaults, under whatever keys they are written, change nothing about
  what stands under the two keys. -/
theorem names_cannot_be_forged (merger : Merger) (target : DispatchTarget)
    (arguments : List ArgumentValue) (order : List RouteEntry) (handlerKey actionKey : String) :
    let route := merger.mergeInOrder target arguments order
    let full := route.dictionaryWith handlerKey actionKey
    full.get? actionKey = some (.string route.actionName) ∧
    (RouteKey.same handlerKey actionKey = false →
      full.get? handlerKey = some (.string route.handlerName)) ∧
    (∀ key, RouteKey.same handlerKey key = false → RouteKey.same actionKey key = false →
      full.get? key = route.values.get? key ∧ full.spelling? key = route.values.spelling? key) ∧
    (∀ key, route.values.contains key = true →
      full.spelling? key = route.values.spelling? key) ∧
    full.size = route.values.size + (route.values.missing [handlerKey, actionKey]).length ∧
    (∀ (arguments' : List ArgumentValue) (defaults' : RouteValues) (order' : List RouteEntry),
      let target' := { target with defaults := defaults' }
      let route' := merger.mergeInOrder target' arguments' order'
      let full' := route'.dictionaryWith handlerKey actionKey
      full'.get? handlerKey = full.get? handlerKey ∧
        full'.get? actionKey = full.get? actionKey) := by
  intro route full
  have view := Route.get?_dictionaryWith route handlerKey actionKey
  have spelling := Route.spelling?_dictionaryWith route handlerKey actionKey
  refine ⟨?_, ?_, ?_, ?_, route.size_dictionaryWith handlerKey actionKey, ?_⟩
  · rw [view, if_pos (RouteKey.same_refl actionKey)]
  · intro apart
    rw [view, RouteKey.same_comm, apart, RouteKey.same_refl]
    rfl
  · intro key handler action
    rw [view, spelling, handler, action]
    exact ⟨rfl, Option.or_none⟩
  · intro key known
    rcases Option.isSome_iff_exists.1 (route.values.isSome_spelling? key ▸ known) with ⟨kept, there⟩
    rw [spelling, there]
    rfl
  · intro arguments' defaults' order' target' route' full'
    -- The other target has the same names and constraints, and nothing else decides the names.
    have names : route'.handlerName = route.handlerName ∧ route'.actionName = route.actionName :=
      names_mergeInOrder_congr merger rfl rfl rfl arguments' arguments order' order
    rcases names with ⟨handler, action⟩
    have view' := Route.get?_dictionaryWith route' handlerKey actionKey
    constructor
    · -- Either name may stand under the handler key, but no route value does.
      rw [view, view', handler, action, RouteKey.same_refl, if_pos rfl, if_pos rfl]
    · rw [view, view', action, RouteKey.same_refl, if_pos rfl, if_pos rfl]

/-- A target whose parameter is bound to a spelling of the handler key, and which has a default
under a spelling of the action key. -/
def forgingTarget : DispatchTarget where
  method := ⟨⟨0, "shop::ItemHandler"⟩, "Show", [⟨"id", "i64"⟩]⟩
  handlerName := "Item"
  actionName := "Show"
  bindings := [⟨"id", some "Handler"⟩]
  defaults := .ofList [("VERB", .string "Erase"), ("Area", .string "shop")]
  constraints := [⟨"action", "Edit"⟩]

/-- The argument has written the handler key, and the default the action key. The names take their
places under the spellings that are there, and a run with neither has the same names. -/
theorem names_cannot_be_forged_forgingTarget :
    let route := default.mergeInOrder forgingTarget [⟨0, "x", .string "Forged"⟩]
      forgingTarget.defaults.entries
    let full := route.dictionaryWith "handler" "verb"
    let honest := default.mergeInOrder { forgingTarget with defaults := .empty } [] []
    RouteKey.same "handler" "verb" = false ∧ RouteKey.same "handler" "area" = false ∧
      RouteKey.same "verb" "area" = false ∧ route.values.contains "handler" = true ∧
      full.get? "handler" = some (.string "Item") ∧ full.get? "verb" = some (.string "Edit") ∧
      full.get? "area" = some (.string "shop") ∧ full.spelling? "handler" = some "Handler" ∧
      full.size = 3 ∧
      (honest.dictionaryWith "handler" "verb").get? "handler" = full.get? "handler" ∧
      (honest.dictionaryWith "handler" "verb").get? "verb" = full.get? "verb" := by
  intro route full honest
  have apart : RouteKey.same "handler" "verb" = false := by decide +kernel
  have area : RouteKey.same "handler" "area" = false := by decide +kernel
  have area' : RouteKey.same "verb" "area" = false := by decide +kernel
  have known : route.values.contains "handler" = true := by decide +kernel
  rcases names_cannot_be_forged default forgingTarget [⟨0, "x", .string "Forged"⟩]
    forgingTarget.defaults.entries "handler" "verb" with
    ⟨action, handler, others, spellings, size, runs⟩
  have there := runs [] .empty []
  exact ⟨apart, area, area', known, handler apart, action, (others "area" area area').1,
    spellings "handler" known, size, there⟩

end Merger
end InvocationRouting

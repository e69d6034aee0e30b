import FleetConsole.Proofs.Service.Call
import FleetConsole.Store.Snapshot

/-!
# What a call is refused for first

A call can fail for four reasons, and the first of them that applies is the answer: the path that it
needs is missing, the request is cancelled, the store fails, or a document cannot be decoded. So a
cancelled request learns nothing from the store, and what it is told depends on nothing that the
store holds or that the request would have picked out of it (`Service.answer_precedence`).
-/

namespace FleetConsole

open FleetRecord (decode)

namespace RequestContext

variable {ctx : RequestContext}

/-- A request has no path, or an empty one. -/
def LacksPath (ctx : RequestContext) : Prop :=
  ctx.value? pathKey = none ∨ ctx.value? pathKey = some ""

instance (ctx : RequestContext) : Decidable ctx.LacksPath := inferInstanceAs (Decidable (_ ∨ _))

/-- An empty path counts as none. -/
theorem path?_eq_none_iff : ctx.path? = none ↔ ctx.LacksPath := by
  unfold path? LacksPath
  cases ctx.value? pathKey with
  | none => simp
  | some path => simp

end RequestContext

variable {α : Type}

namespace Service

/-- A call that needs a path makes no query without one. -/
theorem query_of_lacksPath {s : Service} {ctx : RequestContext} {call : Call α}
    (hneeds : call.needsPath) (hlacks : ctx.LacksPath) :
    s.query ctx call = .error (.missingPath (Coordinate.text ⟨s.api, .application⟩)) := by
  have hpath := RequestContext.path?_eq_none_iff.mpr hlacks
  rw [query, if_pos hneeds, lookup, RequestContext.requirePath, hpath]
  rfl

/-- Any other call makes a query. -/
theorem exists_query {s : Service} {ctx : RequestContext} {call : Call α}
    (h : ¬ (call.needsPath ∧ ctx.LacksPath)) : ∃ q, s.query ctx call = .ok q := by
  unfold query
  by_cases hneeds : call.needsPath
  · rw [if_pos hneeds, lookup, RequestContext.requirePath]
    cases hpath : ctx.path? with
    | none => exact absurd ⟨hneeds, RequestContext.path?_eq_none_iff.mp hpath⟩ h
    | some path => exact ⟨_, rfl⟩
  · rw [if_neg hneeds]
    exact ⟨_, rfl⟩

/-- What a call is told if its request is cancelled: that it needs a path, if it does and there is
none, and otherwise that it is cancelled. -/
def refusal (s : Service) (ctx : RequestContext) (call : Call α) : FleetError :=
  if call.needsPath ∧ ctx.LacksPath then .missingPath (Coordinate.text ⟨s.api, .application⟩)
  else .cancelled

/-- The answers to a call whose request is not cancelled, by the first thing that goes wrong: the
path is missing, the store answers the query with an error, or a document is the first that is no
record of the kind. If nothing does, the answer is made of the records of all documents. -/
inductive Resolved (s : Service) (ctx : RequestContext) (call : Call α) :
    Except FleetError α → Prop where
  | missingPath (needs : call.needsPath) (lacks : ctx.LacksPath) :
      Resolved s ctx call (.error (.missingPath (Coordinate.text ⟨s.api, .application⟩)))
  | storeError {q : Query} {e : FleetError} (asked : s.query ctx call = .ok q)
      (failed : s.store.answer q = .error e) : Resolved s ctx call (.error e)
  | undecodable {q : Query} {before after : List Json} {doc : Json} {e : FleetError}
      (asked : s.query ctx call = .ok q)
      (answered : s.store.answer q = .ok (before ++ doc :: after))
      (fine : ∀ b ∈ before, ∃ r : call.kind.Resource, decode b = .ok r)
      (first : (decode doc : Except FleetError call.kind.Resource) = .error e) :
      Resolved s ctx call (.error e)
  | records {q : Query} {docs : List Json} {records : List call.kind.Resource}
      (asked : s.query ctx call = .ok q) (answered : s.store.answer q = .ok docs)
      (each : List.Forall₂ (fun doc r => decode doc = .ok r) docs records) :
      Resolved s ctx call (.ok (call.ofRecords s.clustersWidth records))

/-- A cancelled request is told what is wrong with it, before the store is asked. -/
theorem answer_of_isCancelled {s : Service} {board : Signals} {ctx : RequestContext}
    (hcancelled : ctx.isCancelled board) (call : Call α) :
    s.answer board ctx call = .error (s.refusal ctx call) := by
  rw [answer_eq, recordsOf, refusal]
  by_cases hmissing : call.needsPath ∧ ctx.LacksPath
  · rw [if_pos hmissing, query_of_lacksPath hmissing.1 hmissing.2]
    rfl
  · obtain ⟨q, hq⟩ := exists_query (s := s) hmissing
    rw [if_neg hmissing, hq]
    simp only [RequestContext.run_of_isCancelled hcancelled]
    rfl

/-- A call whose request is not cancelled has exactly the answer that its steps lead to. -/
theorem answer_eq_iff_resolved {s : Service} {board : Signals} {ctx : RequestContext}
    (hlive : ctx.isCancelled board = false) (call : Call α) (a : Except FleetError α) :
    s.answer board ctx call = a ↔ s.Resolved ctx call a := by
  have hanswer : s.answer board ctx call =
      (s.query ctx call >>= fun q => s.store.answer q >>= FleetRecord.decodeAll).map
        (call.ofRecords s.clustersWidth) := by
    rw [answer_eq, recordsOf]
    simp only [RequestContext.run_of_live hlive]
  rw [hanswer]
  constructor
  · rintro rfl
    by_cases hmissing : call.needsPath ∧ ctx.LacksPath
    · rw [query_of_lacksPath hmissing.1 hmissing.2]
      exact .missingPath hmissing.1 hmissing.2
    · obtain ⟨q, hq⟩ := exists_query (s := s) hmissing
      rw [hq]
      show Resolved s ctx call ((s.store.answer q >>= FleetRecord.decodeAll).map _)
      cases hdocs : s.store.answer q with
      | error e => exact .storeError hq hdocs
      | ok docs =>
        show Resolved s ctx call ((FleetRecord.decodeAll docs).map _)
        cases hrecords :
            (FleetRecord.decodeAll docs : Except FleetError (List call.kind.Resource)) with
        | ok records => exact .records hq hdocs (mapM_eq_ok_iff.mp hrecords)
        | error e =>
          obtain ⟨before, doc, after, rfl, fine, first⟩ := mapM_eq_error_iff.mp hrecords
          exact .undecodable hq hdocs fine first
  · intro h
    cases h with
    | missingPath needs lacks =>
      rw [query_of_lacksPath needs lacks]
      rfl
    | storeError asked failed =>
      rw [asked]
      show (s.store.answer _ >>= FleetRecord.decodeAll).map _ = _
      rw [failed]
      rfl
    | undecodable asked answered fine first =>
      rw [asked]
      show (s.store.answer _ >>= FleetRecord.decodeAll).map _ = _
      rw [answered]
      exact map_eq_error_iff.mpr (mapM_eq_error_iff.mpr ⟨_, _, _, rfl, fine, first⟩)
    | records asked answered each =>
      rw [asked]
      show (s.store.answer _ >>= FleetRecord.decodeAll).map _ = _
      rw [answered]
      exact map_eq_ok_iff.mpr ⟨_, mapM_eq_ok_iff.mpr each, rfl⟩

/-- Whether a request is cancelled comes right behind its path. If it is cancelled, every call is
refused: for a path that it needs and that is missing or empty, and otherwise as cancelled. Another
cancelled request is told the same, whatever its store, scope, selector and path are, as long as a
call that needs a path has one in both requests or in neither. If it is not cancelled, the answer is
the one that the store's answer and then its documents lead to. -/
theorem answer_precedence (call : Call α) (s : Service) (board : Signals) (ctx : RequestContext) :
    (ctx.isCancelled board →
      s.answer board ctx call = .error (s.refusal ctx call) ∧
      ∀ (s' : Service) (board' : Signals) (ctx' : RequestContext), ctx'.isCancelled board' →
        (call.needsPath → s'.api = s.api ∧ (ctx'.LacksPath ↔ ctx.LacksPath)) →
        s'.answer board' ctx' call = s.answer board ctx call) ∧
    (ctx.isCancelled board = false →
      ∀ a, s.answer board ctx call = a ↔ s.Resolved ctx call a) := by
  refine ⟨fun hcancelled => ⟨answer_of_isCancelled hcancelled call, ?_⟩,
    fun hlive a => answer_eq_iff_resolved hlive call a⟩
  intro s' board' ctx' hcancelled' hsame
  have hrefusal : s'.refusal ctx' call = s.refusal ctx call := by
    unfold refusal
    by_cases hneeds : call.needsPath
    · obtain ⟨hapi, hlacks⟩ := hsame hneeds
      simp only [hneeds, hapi, hlacks]
    · simp [hneeds]
  rw [answer_of_isCancelled hcancelled', answer_of_isCancelled hcancelled, hrefusal]

/-- An application that cannot be decoded is no error to a cancelled request, which is not told that
it is there, and is one to the same request before it is cancelled. Without a path both requests are
told that. -/
theorem answer_precedence_undecodable :
    let doc : Json := .obj
      [("kind", .str "Application"),
       ("metadata", .obj [("name", .str "web"), ("namespace", .str "shop")]), ("spec", .int 7)]
    let s : Service := { store := Snapshot.store ⟨"fleet.yaml", [doc]⟩ }
    let board : Signals := ⟨[{ cancelled := true }, {}]⟩
    let request (signal : Nat) (path : String) : RequestContext :=
      RequestContext.withPath { signal := some signal } path
    let call := Call.table .manifests
    (request 0 "shop/web").isCancelled board ∧
      s.answer board (request 0 "shop/web") call = .error .cancelled ∧
      s.answer board (request 0 "") call =
        .error (.missingPath "apis.clusterfleet.io/v1alpha1/applications") ∧
      (request 1 "shop/web").isCancelled board = false ∧
      ∃ e, (decode doc : Except FleetError Application) = .error e ∧
        s.answer board (request 1 "shop/web") call = .error e := by
  intro doc s board request call
  have hcancelled (path : String) : (request 0 path).isCancelled board := rfl
  have hlive : (request 1 "shop/web").isCancelled board = false := rfl
  refine ⟨hcancelled _, ?_, ?_, hlive, ?_⟩
  · rw [((answer_precedence call s board _).1 (hcancelled "shop/web")).1]
    decide +kernel
  · rw [((answer_precedence call s board _).1 (hcancelled "")).1]
    decide +kernel
  · cases hdecode : (decode doc : Except FleetError Application) with
    | ok app => cases hdecode
    | error e =>
      have hfound :
          s.store.answer (.get ⟨⟨.standard, .application⟩, "shop/web", true, .everything⟩) =
            .ok ([] ++ doc :: []) := by
        decide +kernel
      refine ⟨e, rfl, ((answer_precedence call s board _).2 hlive _).mpr ?_⟩
      exact .undecodable rfl hfound (List.forall_mem_nil _) hdecode

end Service

end FleetConsole

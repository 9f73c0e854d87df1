import AccessControl.Proofs.Routing

/-!
# Privilege queries

A privilege query asks the routes of a configuration about a request that nobody makes. It differs from the enforcement
point over the same routes in three ways: it finds the path of the request in advance, it has the principal at hand,
and it counts an abstain as allowed. The main statement says that only the last one shows. Both answer by the one
decision of the routes, so they fail alike, a query never hides an access that the enforcement point gives, and they
differ at most where the routes abstain.
-/
namespace AccessControl

section Routes

variable {limit : Nat} {c : Config} {r : Request} {visit : Visit} {guard : RequestGuard}

/-- What the routes decide does not depend on whether the path was found in advance. -/
theorem Config.decision_withParsedPath (limit : Nat) (c : Config) (r : Request) (path : RequestPath)
    (o : Outcome Principal) : c.decision limit (r.withParsedPath path) o = c.decision limit r o := rfl

/-- The guard for all requests decides as the routes read, whatever supplier it is given. -/
theorem Config.decide_guardFor (hguard : c.guardFor limit = .ok guard)
    (hpath : visit.path.getD (.ofRequest r) = .ofRequest r) {σ : Type} (supplier : Supplier σ) (s : σ)
    (log : List String) :
    ((guard.decide supplier r).run ⟨s, visit, log⟩).1 = c.decision limit r (replayed (supplier s).1) := by
  obtain ⟨hcombined, houtcome⟩ := Config.consult_guardFor (o := replayed (supplier s).1) hguard hpath
  rw [RequestGuard.decide, Guard.decide_of_isCombined r.reading supplier s hcombined]
  exact houtcome

theorem Config.requestGate_guardFor {e : Expr.Engine} (he : e.Sound limit) {gate : RequestGate}
    (h : (c.requestGate.run e).1 = .ok gate) :
    c.guardFor limit = .ok gate.guard ∧ c.engine.abstainPolicy = .ok gate.onAbstain := by
  rw [(c.requestGate_yields e he).1] at h
  obtain ⟨guard, hguard, h⟩ := Outcome.bind_eq_ok.mp h
  obtain ⟨onAbstain, habstain, h⟩ := Outcome.bind_eq_ok.mp h
  cases h
  exact ⟨hguard, habstain⟩

theorem Config.privilegeQuery_guardFor {e : Expr.Engine} (he : e.Sound limit) {query : PrivilegeQuery}
    (h : (c.privilegeQuery.run e).1 = .ok query) :
    c.guardFor limit = .ok query.guard ∧ query.preparation = .findPath .standard := by
  obtain ⟨guard, t, hguard, h⟩ := Step.run_bind_eq_ok.mp h
  cases h
  exact ⟨(c.requestGuard_yields e he).1.symm.trans (congrArg Prod.fst hguard), rfl⟩

end Routes

/-- A request that is made up for a privilege query. -/
def Request.madeUp (contextPath uri : String) (method : HttpMethod) : Request :=
  ({ method, uri : Request }).withContextPath contextPath

/-! ## Two readings of one decision -/

section Readings

variable {decided : Outcome Decision} {policy : AbstainPolicy}

theorem Decision.map_allows_eq_error {error : AccessError} :
    decided.map Decision.allows = .error error ↔ decided.map policy.permits = .error error := by
  cases decided <;> simp [Except.map]

theorem Decision.map_allows_eq_false : decided.map Decision.allows = .ok false ↔ decided = .ok .deny := by
  cases decided <;> simp [Except.map, allows]

theorem Decision.allows_of_permits {d : Decision} (h : policy.permits d = true) : d.allows = true := by
  cases d with
  | deny => cases h
  | grant | abstain => rfl

theorem Decision.map_allows_of_permits (h : decided.map policy.permits = .ok true) :
    decided.map Decision.allows = .ok true := by
  cases decided with
  | error e => cases h
  | ok d => exact congrArg Except.ok (allows_of_permits (Except.ok.inj h))

/-- The two readings differ at most at an abstain. -/
theorem Decision.map_allows_eq_permits (h : decided ≠ .ok .abstain ∨ policy.permits .abstain = true) :
    decided.map Decision.allows = decided.map policy.permits := by
  cases decided with
  | error e => rfl
  | ok d =>
      cases d with
      | abstain =>
          obtain h | h := h
          · exact absurd rfl h
          · exact congrArg Except.ok h.symm
      | grant | deny => rfl

end Readings

section Queries

variable {limit : Nat} {c : Config} {guard : RequestGuard}

/-- A privilege query allows what the routes do not deny, however its request was prepared. -/
theorem PrivilegeQuery.isAllowedRequest_guardFor (hguard : c.guardFor limit = .ok guard) (preparation : Preparation)
    (contextPath uri : String) (method : HttpMethod) (p : Principal) {r : Request} {visit : Visit}
    (hprepared : preparation.run (.madeUp contextPath uri method) = (r, visit))
    (hpath : visit.path.getD (.ofRequest r) = .ofRequest r) :
    (PrivilegeQuery.isAllowedRequest ⟨guard, preparation⟩ contextPath uri method p).1 =
      (c.decision limit r (.ok p)).map Decision.allows := by
  have hrun : preparation.run ({ method, uri : Request }.withContextPath contextPath) = (r, visit) := hprepared
  simp only [isAllowedRequest, hrun]
  exact congrArg (Except.map Decision.allows) (Config.decide_guardFor hguard hpath (.fixed (.ok p)) () [])

/-- A privilege query of a configuration and the enforcement point of the same configuration answer by one decision of
the routes. The query fails exactly as the check of the same request does, and otherwise it says no exactly if the
routes deny. So it allows whatever the check lets through, both give one answer wherever the routes decide or the
setting is to grant, and finding the path in advance changes nothing. The engine may have compiled anything before
either of them is built, and the check may get the principal from any supplier. -/
theorem privilegeQuery_agrees_with_gate (c : Config) (limit : Nat) (e e' : Expr.Engine) (he : e.Sound limit)
    (he' : e'.Sound limit) (gate : RequestGate) (hgate : (c.requestGate.run e).1 = .ok gate) (query : PrivilegeQuery)
    (hquery : (c.privilegeQuery.run e').1 = .ok query) (contextPath uri : String) (method : HttpMethod)
    (p : Principal) {σ : Type} (supplier : Supplier σ) (s : σ) (hp : (supplier s).1 = .ok p) (log : List String) :
    let r : Request := .madeUp contextPath uri method
    let decided := ((gate.guard.decide supplier r).run ⟨s, .start r, log⟩).1
    let checked := ((gate.check supplier r).run ⟨s, .start r, log⟩).1
    let allowed := (query.isAllowedRequest contextPath uri method p).1
    let plain : PrivilegeQuery := { query with preparation := .none }
    decided = c.decision limit r (.ok p) ∧
      (∀ error, allowed = .error error ↔ checked = .error error) ∧
      (allowed = .ok false ↔ decided = .ok .deny) ∧
      (checked = .ok true → allowed = .ok true) ∧
      (decided ≠ .ok .abstain ∨ Text.lower c.engine.onAbstain = "grant" → allowed = checked) ∧
      (plain.isAllowedRequest contextPath uri method p).1 = allowed := by
  intro r decided checked allowed plain
  obtain ⟨hguard, habstain⟩ := Config.requestGate_guardFor he hgate
  obtain ⟨guard, preparation⟩ := query
  obtain ⟨hqueried, rfl⟩ := Config.privilegeQuery_guardFor he' hquery
  have hpath : (Visit.start r).path.getD (.ofRequest r) = .ofRequest r := rfl
  have hdecided : decided = c.decision limit r (.ok p) := by
    have hdecided := Config.decide_guardFor hguard hpath supplier s log
    rwa [hp] at hdecided
  have hchecked : checked = decided.map gate.onAbstain.permits := by
    have hchecked := congrArg Prod.fst (gate.check_run supplier r s (.start r) log)
    rw [hp] at hchecked
    rw [hdecided, ← (Config.consult_guardFor hguard hpath).2]
    exact hchecked
  -- The path that the query finds in advance is the one that the routes would find.
  have hallowed : allowed = decided.map Decision.allows := by
    rw [hdecided, ← c.decision_withParsedPath limit r (.ofRequest r)]
    exact PrivilegeQuery.isAllowedRequest_guardFor hqueried (.findPath .standard) contextPath uri method p rfl rfl
  have hplain : (plain.isAllowedRequest contextPath uri method p).1 = decided.map Decision.allows := by
    rw [hdecided]
    exact PrivilegeQuery.isAllowedRequest_guardFor hqueried .none contextPath uri method p rfl rfl
  rw [hchecked, hallowed, hplain]
  refine ⟨hdecided, fun error => Decision.map_allows_eq_error, Decision.map_allows_eq_false,
    Decision.map_allows_of_permits, fun h => Decision.map_allows_eq_permits ?_, rfl⟩
  rwa [AbstainPolicy.permits_abstain_of_parse habstain, decide_eq_true_iff]

/-- Where a route denies both say no, and where no route applies the query does not. -/
theorem privilegeQuery_agrees_with_gate_of_two_requests :
    let admin : RouteRule := { pattern := "/admin/**", expression := some "request.path == '/admin/open'" }
    let c : Config := { routes := [admin] }
    let e := c.engine.newEngine
    let alice : Principal := .named "alice"
    let supplier := Supplier.fixed (.ok alice)
    let check (gate : RequestGate) (uri : String) : Outcome Bool :=
      let r : Request := .madeUp "/app" uri .get
      ((gate.check supplier r).run ⟨(), .start r, []⟩).1
    ∃ gate query, (c.requestGate.run e).1 = .ok gate ∧ (c.privilegeQuery.run (c.requestGate.run e).2).1 = .ok query ∧
      (supplier ()).1 = .ok alice ∧ check gate "/app/home/../admin//users" = .ok false ∧
      (query.isAllowedRequest "/app" "/app/home/../admin//users" .get alice).1 = .ok false ∧
      (query.isAllowedRequest "/app" "/app/admin/../home" .get alice).1 ≠ .ok false := by
  intro admin c e alice supplier check
  have he : e.Sound c.engine.maxExpressionLength := Expr.Engine.sound_new _
  have he' := (c.requestGate_yields e he).2
  obtain ⟨gate, hgate⟩ := Outcome.exists_ok_of_isOk (x := (c.requestGate.run e).1) (by decide +kernel)
  obtain ⟨query, hquery⟩ := Outcome.exists_ok_of_isOk (x := (c.privilegeQuery.run (c.requestGate.run e).2).1)
    (by decide +kernel)
  have hagree (uri : String) := privilegeQuery_agrees_with_gate c _ e _ he he' gate hgate query hquery "/app" uri .get
    alice supplier () rfl []
  have hdenied : c.decision c.engine.maxExpressionLength (.madeUp "/app" "/app/home/../admin//users" .get)
      (.ok alice) = .ok .deny := by decide +kernel
  have habstained : c.decision c.engine.maxExpressionLength (.madeUp "/app" "/app/admin/../home" .get)
      (.ok alice) = .ok .abstain := by decide +kernel
  obtain ⟨hdecided, -, hno, -, hsame, -⟩ := hagree "/app/home/../admin//users"
  obtain ⟨hdecided', -, hno', -⟩ := hagree "/app/admin/../home"
  have hallowed := hno.mpr (hdecided.trans hdenied)
  refine ⟨gate, query, hgate, hquery, rfl, ?_, hallowed, fun h => ?_⟩
  · exact (hsame (.inl fun h => nomatch (hdecided.trans hdenied).symm.trans h)).symm.trans hallowed
  · exact nomatch (hno'.mp h).symm.trans (hdecided'.trans habstained)

end Queries

end AccessControl

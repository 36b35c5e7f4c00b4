import Mathlib.Data.List.Nodup
import WaybeamVenc.HttpParse
import WaybeamVenc.SegmentRoutes

namespace WaybeamVenc.HttpRoutes

open CNumber HttpParse SegmentRoutes

def httpdMaxRoutes : ℕ := 64

inductive Handler
  | version | config | capabilities | set | get | fpsConfig | fpsLive | restart | ae | awb | iqSet | iqImport | iq | modes
  | ispMetrics | idr | recordStart | recordStop | recordStatus | dualStatus | dualSet | dualIdr | dashboard
deriving DecidableEq

structure HttpRoute where
  method : CString
  pathPrefix : CString
  handler : Handler
deriving DecidableEq

def vencHttpdRoute (method pathPrefix : CString) (handler : Handler) (routes : List HttpRoute) :
    Int32 × List HttpRoute :=
  if httpdMaxRoutes ≤ routes.length then (-1, routes)
  else (0, routes ++ [⟨method.take (httpdMaxMethod - 1), pathPrefix.take (httpdMaxPath - 1), handler⟩])

/-- The calls in venc_api_register, the one of venc_webui_register last. -/
def routeCalls : List (String × String × Handler) :=
  [("GET", "/api/v1/version", .version), ("GET", "/api/v1/config", .config), ("GET", "/api/v1/config.json", .config),
    ("GET", "/api/v1/capabilities", .capabilities), ("GET", "/api/v1/set", .set), ("GET", "/api/v1/get", .get),
    ("GET", "/api/v1/fps/config", .fpsConfig), ("GET", "/api/v1/fps/live", .fpsLive),
    ("GET", "/api/v1/restart", .restart), ("GET", "/api/v1/ae", .ae), ("GET", "/api/v1/awb", .awb),
    ("GET", "/api/v1/iq/set", .iqSet), ("POST", "/api/v1/iq/import", .iqImport), ("GET", "/api/v1/iq", .iq),
    ("GET", "/api/v1/modes", .modes), ("GET", "/metrics/isp", .ispMetrics), ("GET", "/request/idr", .idr),
    ("GET", "/api/v1/record/start", .recordStart), ("GET", "/api/v1/record/stop", .recordStop),
    ("GET", "/api/v1/record/status", .recordStatus), ("GET", "/api/v1/dual/status", .dualStatus),
    ("GET", "/api/v1/dual/set", .dualSet), ("GET", "/api/v1/dual/idr", .dualIdr), ("GET", "/", .dashboard)]

/-- One r |= venc_httpd_route(..). -/
def addRoute (acc : Int32 × List HttpRoute) (call : String × String × Handler) : Int32 × List HttpRoute :=
  let (ret, routes) := vencHttpdRoute call.1.toList call.2.1.toList call.2.2 acc.2
  (acc.1 ||| ret, routes)

/-- The globals of venc_api.c and the route table. -/
structure Api (Cfg Cb : Type) where
  cfg : Option Cfg := none
  cb : Option Cb := none
  backend : CString := []
  routesRegistered : Bool := false
  routes : List HttpRoute := []

variable {Cfg Cb : Type}

/-- The arguments of a call, the backend's name maybe NULL. -/
structure Call (Cfg Cb : Type) where
  cfg : Cfg
  backendName : Option CString
  cb : Option Cb

def vencApiRegister (call : Call Cfg Cb) (api : Api Cfg Cb) : Int32 × Api Cfg Cb :=
  let api := { api with cfg := some call.cfg, cb := call.cb, backend := (call.backendName.getD "unknown".toList).take 31 }
  if api.routesRegistered then (0, api)
  else
    let (r, routes) := routeCalls.foldl addRoute (0, api.routes)
    if r ≠ 0 then (-1, { api with routesRegistered := false, routes })
    else (0, { api with routesRegistered := true, routes })

def routeMatches (req : HttpRequest) (r : HttpRoute) : Bool :=
  let pfxLen := r.pathPrefix.length
  -- the character behind the prefix, none at the end of the path
  let next := (req.path.drop pfxLen).head?
  decide (req.method = r.method) && decide (req.path.take pfxLen = r.pathPrefix) &&
    (next == none || next == some '/' || next == some '?')

/-- The route whose handler dispatch calls, none where it answers 404. -/
def routeFor (routes : List HttpRoute) (req : HttpRequest) : Option HttpRoute := routes.find? (routeMatches req)

/-! What serves a request. -/

def Separator (c : Char) : Prop := c = '/' ∨ c = '?'

def Serves (r : HttpRoute) (req : HttpRequest) : Prop := req.method = r.method ∧ Under Separator r.pathPrefix req.path

theorem routeMatches_iff (req : HttpRequest) (r : HttpRoute) : routeMatches req r = true ↔ Serves r req := by
  have hnext : ((req.path.drop r.pathPrefix.length).head? == none ||
      (req.path.drop r.pathPrefix.length).head? == some '/' || (req.path.drop r.pathPrefix.length).head? == some '?') = true ↔
      ∀ c ∈ (req.path.drop r.pathPrefix.length).head?, Separator c := by
    cases (req.path.drop r.pathPrefix.length).head? with
    | none => simp
    | some c => simp [Separator]
  rw [routeMatches, Serves, under_iff, Bool.and_eq_true, Bool.and_eq_true, hnext, decide_eq_true_iff, decide_eq_true_iff,
    List.prefix_iff_eq_take, and_assoc, @eq_comm _ (List.take _ _)]

instance (r : HttpRoute) (req : HttpRequest) : Decidable (Serves r req) :=
  decidable_of_iff _ (routeMatches_iff req r)

theorem routeFor_eq (routes : List HttpRoute) (req : HttpRequest) :
    routeFor routes req = routes.find? fun r => decide (Serves r req) := by
  rw [routeFor]
  congr 1
  funext r
  rw [Bool.eq_iff_iff, decide_eq_true_iff, routeMatches_iff]

/-! The table. -/

def apiRoutes : List HttpRoute := routeCalls.map fun call => ⟨call.1.toList, call.2.1.toList, call.2.2⟩

/-- A route of the source's table is kept whole and takes one of its places. -/
theorem addRoute_kept {r : Int32} {routes : List HttpRoute} {call : String × String × Handler}
    (hroom : routes.length < httpdMaxRoutes) (hmethod : call.1.length < httpdMaxMethod)
    (hpath : call.2.1.length < httpdMaxPath) :
    addRoute (r, routes) call = (r, routes ++ [⟨call.1.toList, call.2.1.toList, call.2.2⟩]) := by
  have hm : call.1.toList.take (httpdMaxMethod - 1) = call.1.toList := by
    apply List.take_of_length_le
    rw [String.length_toList]
    omega
  have hp : call.2.1.toList.take (httpdMaxPath - 1) = call.2.1.toList := by
    apply List.take_of_length_le
    rw [String.length_toList]
    omega
  simp [addRoute, vencHttpdRoute, Nat.not_le_of_lt hroom, hm, hp]

theorem addRoutes_kept (calls : List (String × String × Handler)) {r : Int32} {routes : List HttpRoute}
    (hroom : routes.length + calls.length ≤ httpdMaxRoutes)
    (hfits : ∀ call ∈ calls, call.1.length < httpdMaxMethod ∧ call.2.1.length < httpdMaxPath) :
    calls.foldl addRoute (r, routes) = (r, routes ++ calls.map fun call => ⟨call.1.toList, call.2.1.toList, call.2.2⟩) := by
  induction calls generalizing routes with
  | nil => simp
  | cons call calls ih =>
      rw [List.length_cons] at hroom
      obtain ⟨hmethod, hpath⟩ := hfits call List.mem_cons_self
      rw [List.foldl_cons, addRoute_kept (by omega) hmethod hpath, ih]
      · simp
      · rw [List.length_append, List.length_singleton]
        omega
      · exact fun c hc => hfits c (List.mem_cons_of_mem call hc)

theorem routeCalls_fit : ∀ call ∈ routeCalls, call.1.length < httpdMaxMethod ∧ call.2.1.length < httpdMaxPath := by
  decide

theorem registered_all : routeCalls.foldl addRoute (0, []) = (0, apiRoutes) := by
  rw [addRoutes_kept]
  · rfl
  · decide
  · exact routeCalls_fit

/-- Before the first registration the table is empty, after it whole. -/
structure Registered (api : Api Cfg Cb) : Prop where
  table : api.routes = if api.routesRegistered then apiRoutes else []

theorem vencApiRegister_keeps (call : Call Cfg Cb) {api : Api Cfg Cb} (h : Registered api) :
    (vencApiRegister call api).1 = 0 ∧ (vencApiRegister call api).2.routesRegistered = true ∧
      Registered (vencApiRegister call api).2 := by
  have htable := h.table
  by_cases hreg : api.routesRegistered = true
  · rw [if_pos hreg] at htable
    simp only [vencApiRegister, hreg, if_true, true_and]
    exact ⟨by simp [htable]⟩
  · rw [if_neg hreg] at htable
    simp only [vencApiRegister, hreg, htable, registered_all]
    exact ⟨rfl, rfl, ⟨rfl⟩⟩

/-! The order of the table. -/

/-- Two routes of which the first does not hide a more specific second one. -/
def Unhidden (a b : HttpRoute) : Prop :=
  a.method = b.method → a.pathPrefix.length < b.pathPrefix.length → ¬(a.pathPrefix <+: b.pathPrefix ∧
    ((b.pathPrefix.drop a.pathPrefix.length).head? = some '/' ∨ (b.pathPrefix.drop a.pathPrefix.length).head? = some '?'))

instance (a b : HttpRoute) : Decidable (Unhidden a b) := by
  unfold Unhidden
  infer_instance

theorem apiRoutes_unhidden : apiRoutes.Pairwise Unhidden := by decide +kernel

theorem apiRoutes_nodup : (apiRoutes.map fun r => (r.method, r.pathPrefix)).Nodup := by decide +kernel

theorem Unhidden.specific {a b : HttpRoute} (h : Unhidden a b) (req : HttpRequest) (ha : Serves a req) (hb : Serves b req) :
    b.pathPrefix.length ≤ a.pathPrefix.length := by
  by_contra hlen
  have hshort : a.pathPrefix.length < b.pathPrefix.length := Nat.lt_of_not_le hlen
  have hunder := ha.2.shorter hb.2 (Nat.le_of_lt hshort)
  obtain ⟨hpre, hsep⟩ := under_iff.1 hunder
  apply h (ha.1.symm.trans hb.1) hshort
  refine ⟨hpre, ?_⟩
  cases hnext : (b.pathPrefix.drop a.pathPrefix.length).head? with
  | none =>
      have hnil := List.head?_eq_none_iff.1 hnext
      have hle := List.drop_eq_nil_iff.1 hnil
      omega
  | some c =>
      have hc := hsep c hnext
      exact hc.imp (congrArg some) (congrArg some)

theorem apiRoutes_specific :
    SpecificFirst (fun (r : HttpRoute) (req : HttpRequest) => Serves r req) (fun r => r.pathPrefix.length) apiRoutes :=
  apiRoutes_unhidden.imp fun h req ha hb => h.specific req ha hb

theorem apiRoutes_inj {a b : HttpRoute} (ha : a ∈ apiRoutes) (hb : b ∈ apiRoutes) {req : HttpRequest} (hsa : Serves a req)
    (hsb : Serves b req) (hlen : a.pathPrefix.length = b.pathPrefix.length) : a = b := by
  apply List.inj_on_of_nodup_map apiRoutes_nodup ha hb
  rw [← hsa.1, ← hsb.1, hsa.2.same_length hsb.2 hlen]

/-- The most specific of the routes that serve a request. -/
def MostSpecific (r : HttpRoute) (req : HttpRequest) : Prop :=
  r ∈ apiRoutes ∧ Serves r req ∧
    ∀ other ∈ apiRoutes, Serves other req → other ≠ r → other.pathPrefix.length < r.pathPrefix.length

theorem routeFor_apiRoutes (req : HttpRequest) (r : HttpRoute) : routeFor apiRoutes req = some r ↔ MostSpecific r req := by
  rw [routeFor_eq]
  exact first_iff apiRoutes_specific (fun a ha b hb hsa hsb hlen => apiRoutes_inj ha hb hsa hsb hlen) r

/-! Every run of registrations. -/

def registrations (api : Api Cfg Cb) (calls : List (Call Cfg Cb)) : Api Cfg Cb :=
  calls.foldl (fun api call => (vencApiRegister call api).2) api

theorem registrations_keep (calls : List (Call Cfg Cb)) {api : Api Cfg Cb} (h : Registered api) :
    Registered (registrations api calls) := by
  induction calls generalizing api with
  | nil => exact h
  | cons call calls ih => exact ih (vencApiRegister_keeps call h).2.2

theorem unregistered : Registered ({} : Api Cfg Cb) := ⟨rfl⟩

theorem registrations_table (first : Call Cfg Cb) (rest : List (Call Cfg Cb)) :
    (registrations ({} : Api Cfg Cb) (first :: rest)).routes = apiRoutes := by
  obtain ⟨-, hreg, hkept⟩ := vencApiRegister_keeps first unregistered
  have hall : (registrations ({} : Api Cfg Cb) (first :: rest)).routesRegistered = true := by
    rw [registrations, List.foldl_cons]
    generalize (vencApiRegister first ({} : Api Cfg Cb)).2 = api at hreg hkept
    induction rest generalizing api with
    | nil => exact hreg
    | cons call rest ih =>
        obtain ⟨-, hnext, hkept'⟩ := vencApiRegister_keeps call hkept
        exact ih _ hnext hkept'
  have htable := (registrations_keep (first :: rest) unregistered).table
  rwa [if_pos hall] at htable

/-- After any registrations, also repeated ones, a request goes to the most
specific route that serves it. -/
theorem requests_routed (first : Call Cfg Cb) (rest : List (Call Cfg Cb)) (req : HttpRequest) (r : HttpRoute) :
    routeFor (registrations ({} : Api Cfg Cb) (first :: rest)).routes req = some r ↔ MostSpecific r req := by
  rw [registrations_table]
  exact routeFor_apiRoutes req r

end WaybeamVenc.HttpRoutes

import WaybeamVenc.Runs
import Mathlib.Data.List.Basic
import Mathlib.Tactic.SplitIfs
import Mathlib.Tactic.Push

namespace WaybeamVenc.Reinit

open Runs

/-- The two arguments venc_api_request_reinit is called with. -/
inductive Mode
  | reload
  | inMemory
deriving DecidableEq

def Mode.value : Mode → Int
  | .reload => 1
  | .inMemory => 2

/-- venc_api_request_reinit reads g_reinit in its comparison and writes it in a
second step. -/
inductive CallPc
  | compare
  | store
  | returned
deriving DecidableEq

/-- One call; served tells whether a restart that answers it has started after
the call returned. -/
structure Request where
  mode : Mode
  pc : CallPc
  served : Bool

/-- Where the main loop is in star6e_runtime_handle_reinit. -/
inductive MainPc
  | loop
  | sleeping (reinitMode : Int)
  | clearing (reinitMode : Int)
  | starting (reinitMode : Int)
  | restarting
  | exited
deriving DecidableEq

structure State where
  reinit : Int
  requests : List Request
  main : MainPc

def boot : State := ⟨0, [], .loop⟩

inductive Act
  | arrive (mode : Mode)
  | call (i : Nat)
  | main
  | restarted (ret : Int)

/-- A restart answers a call that has returned: one that reloads the
configuration answers any, one from memory a mode-2 call only. -/
def answer (reinitMode : Int) (r : Request) : Request :=
  if r.pc = .returned ∧ (r.mode = .inMemory ∨ reinitMode = 1) then { r with served := true } else r

def requestReinit (s : State) (r : Request) : Option (Int × CallPc) :=
  match r.pc with
  | .compare => some (s.reinit, if s.reinit < r.mode.value then .store else .returned)
  | .store => some (r.mode.value, .returned)
  | .returned => none

def handleReinit (s : State) : Option State :=
  match s.main with
  | .loop => some { s with main := if s.reinit = 0 then .loop else .sleeping s.reinit }
  | .sleeping m => some { s with main := .clearing (if s.reinit ≠ 0 then s.reinit else m) }
  | .clearing m => some { s with reinit := 0, main := .starting m }
  | .starting m => some { s with requests := s.requests.map (answer m), main := .restarting }
  | .restarting | .exited => none

def step (s : State) : Act → Option State
  | .arrive mode => some { s with requests := s.requests ++ [⟨mode, .compare, false⟩] }
  | .call i => s.requests[i]?.bind (fun r => (requestReinit s r).map (fun (reinit, pc) =>
      { s with reinit := reinit, requests := s.requests.set i { r with pc := pc } }))
  | .main => handleReinit s
  | .restarted ret => match s.main with
    | .restarting => some { s with main := if ret = 0 then .loop else .exited }
    | _ => none

/-- The main loop left to itself, every restart succeeding. -/
def serve (s : State) (_ : Unit) : Option State :=
  match s.main with
  | .restarting => some { s with main := .loop }
  | _ => handleReinit s

/-- The main loop alone brings the restart that answers call i. -/
def Answered (s : State) (i : Nat) : Prop :=
  ∃ (t : State) (r : Request), Reaches serve s t ∧ t.requests[i]? = some r ∧ r.served = true

/-- Every call that has returned is answered, or is going to be. -/
def Followed (s : State) : Prop :=
  ∀ (i : Nat) (r : Request), s.requests[i]? = some r → r.pc = .returned → Answered s i

/-- At service time a pending reload decides the mode. -/
def Priority (s : State) : Prop :=
  ∀ m, s.main = .clearing m → ∀ r ∈ s.requests,
    r.pc = .returned → r.mode = .reload → r.served = false → m = 1

/-- The restart that comes next reloads, whatever becomes of the flag. -/
def committed (s : State) : Bool :=
  s.main = .clearing 1 ∨ s.main = .starting 1

/-- No in-memory request overwrites a pending reload, no reload finds an
in-memory request pending or its own store about to be cleared, unless the main
loop is committed to a reload; and restarts succeed. -/
def undisturbed (s : State) : Act → Bool
  | .arrive _ | .main => true
  | .restarted ret => ret = 0
  | .call i => committed s || match s.requests[i]? with
    | none => true
    | some r => match r.mode, r.pc with
      | .inMemory, .store => s.reinit ≠ 1
      | .reload, .compare => s.reinit ≠ 2
      | .reload, .store => s.main ≠ .clearing 2
      | _, _ => true

def Owed (reinit : Int) : MainPc → Mode → Prop
  | .loop, .reload | .sleeping _, .reload | .restarting, .reload => reinit = 1
  | .loop, .inMemory | .sleeping _, .inMemory | .restarting, .inMemory => reinit ≠ 0
  | .clearing m, .reload => m = 1
  | .starting m, .reload => m = 1 ∨ reinit = 1
  | .clearing _, .inMemory | .starting _, .inMemory => True
  | .exited, _ => False

def Flag (v : Int) : Prop := v = 0 ∨ v = 1 ∨ v = 2

def MainInv (reinit : Int) : MainPc → Prop
  | .loop | .restarting => True
  | .sleeping _ => reinit ≠ 0
  | .clearing m => m = 1 ∨ m = 2 ∧ reinit = 2
  | .starting m => m = 1 ∨ m = 2
  | .exited => False

structure Inv (s : State) : Prop where
  flag : Flag s.reinit
  main : MainInv s.reinit s.main
  owed : ∀ r ∈ s.requests, r.pc = .returned → r.served = false → Owed s.reinit s.main r.mode

theorem answer_served {m : Int} {r : Request} (h : (answer m r).served = false) :
    r.served = false ∧ (r.pc = .returned → r.mode = .reload ∧ m ≠ 1) := by
  rw [answer] at h
  split_ifs at h with hserved
  refine ⟨h, fun hpc => ?_⟩
  simp only [hpc, true_and, not_or] at hserved
  cases hm : r.mode with
  | reload => exact ⟨rfl, hserved.2⟩
  | inMemory => exact absurd hm hserved.1

@[simp] theorem answer_pc (m : Int) (r : Request) : (answer m r).pc = r.pc := by
  rw [answer]; split_ifs <;> rfl

@[simp] theorem answer_mode (m : Int) (r : Request) : (answer m r).mode = r.mode := by
  rw [answer]; split_ifs <;> rfl

theorem boot_inv : Inv boot := ⟨.inl rfl, trivial, by simp [boot]⟩

theorem handleReinit_inv {s t : State} (h : Inv s) (hs : handleReinit s = some t) : Inv t := by
  rw [handleReinit] at hs
  split at hs <;> rename_i hm
  case h_1 =>
      cases hs
      refine ⟨h.flag, ?_, fun r hr hpc hun => ?_⟩
      · change MainInv s.reinit (if _ then _ else _)
        split_ifs with h0
        · trivial
        · exact h0
      · have ho := h.owed r hr hpc hun
        rw [hm] at ho
        change Owed s.reinit (if _ then _ else _) r.mode
        split_ifs
        · exact ho
        · cases hmode : r.mode <;> rw [hmode] at ho <;> exact ho
  case h_2 m =>
      have hmain := h.main
      rw [hm] at hmain
      cases hs
      simp only [ne_eq, show s.reinit ≠ 0 from hmain, not_false_eq_true, if_true]
      refine ⟨h.flag, ?_, fun r hr hpc hun => ?_⟩
      · rcases h.flag with h0 | h1 | h2
        · exact absurd h0 hmain
        · exact .inl h1
        · exact .inr ⟨h2, h2⟩
      · have ho := h.owed r hr hpc hun
        rw [hm] at ho
        cases hmode : r.mode with
        | reload => rw [hmode] at ho; exact ho
        | inMemory => trivial
  case h_3 m =>
      have hmain := h.main
      rw [hm] at hmain
      cases hs
      refine ⟨.inl rfl, hmain.imp_right And.left, fun r hr hpc hun => ?_⟩
      have ho := h.owed r hr hpc hun
      rw [hm] at ho
      cases hmode : r.mode with
      | reload => rw [hmode] at ho; exact .inl ho
      | inMemory => trivial
  case h_4 m =>
      cases hs
      refine ⟨h.flag, trivial, fun r hr hpc hun => ?_⟩
      obtain ⟨q, hq, rfl⟩ := List.mem_map.mp hr
      rw [answer_pc] at hpc
      obtain ⟨hqun, hleft⟩ := answer_served hun
      obtain ⟨hmode, hne⟩ := hleft hpc
      have ho := h.owed q hq hpc hqun
      rw [hm, hmode] at ho
      rw [answer_mode, hmode]
      exact ho.resolve_left hne
  case h_5 | h_6 => cases hs

/-- The pending reloads survive a write of g_reinit by an undisturbed call. -/
theorem Owed.write {reinit v : Int} {main : MainPc} {mode : Mode} (h : Owed reinit main mode)
    (hv : v ≠ 0) (hkeep : reinit = 1 → v = 1 ∨ main = .clearing 1 ∨ main = .starting 1) : Owed v main mode := by
  cases main with
  | loop | sleeping _ | restarting =>
      cases mode with
      | reload =>
          rcases hkeep h with h1 | h1 | h1
          · exact h1
          · cases h1
          · cases h1
      | inMemory => exact hv
  | clearing m => cases mode <;> exact h
  | starting m =>
      cases mode with
      | reload =>
          rcases h with h | h
          · exact .inl h
          · rcases hkeep h with h1 | h1 | h1
            · exact .inr h1
            · cases h1
            · cases h1; exact .inl rfl
      | inMemory => trivial
  | exited => cases h

theorem write_inv {s : State} {i : Nat} {r : Request} {v : Int} {pc : CallPc} (h : Inv s)
    (hflag : Flag v) (hmain : MainInv v s.main)
    (hkeep : ∀ mode, Owed s.reinit s.main mode → Owed v s.main mode)
    (hnew : pc = .returned → Owed v s.main r.mode) :
    Inv { s with reinit := v, requests := s.requests.set i { r with pc := pc } } := by
  refine ⟨hflag, hmain, fun q hq hpc hun => ?_⟩
  rcases List.mem_or_eq_of_mem_set hq with hq | rfl
  · exact hkeep _ (h.owed q hq hpc hun)
  · exact hnew hpc

theorem compare_owed {s : State} {mode : Mode} (h : Inv s) (hset : mode.value ≤ s.reinit)
    (hok : committed s = true ∨ mode = .inMemory ∨ s.reinit ≠ 2) : Owed s.reinit s.main mode := by
  have hflag := h.flag
  have hmain := h.main
  simp only [committed, decide_eq_true_eq] at hok
  cases hm : s.main <;> cases mode <;> simp_all [Owed, MainInv, Flag, Mode.value] <;> omega

theorem store_main {s : State} {mode : Mode} (h : Inv s)
    (hok : committed s = true ∨ s.main ≠ .clearing 2 ∨ mode = .inMemory) : MainInv mode.value s.main := by
  have hmain := h.main
  simp only [committed, decide_eq_true_eq] at hok
  cases hm : s.main <;> cases mode <;> simp_all [MainInv, Mode.value] <;> omega

theorem stored_owed {main : MainPc} {mode : Mode} (h : MainInv mode.value main) :
    Owed mode.value main mode := by
  cases mode with
  | reload =>
      cases main with
      | loop | sleeping | restarting => rfl
      | clearing m => exact h.resolve_right (fun hm => absurd hm.2 (by decide))
      | starting m => exact .inr rfl
      | exited => exact h
  | inMemory =>
      cases main with
      | loop | sleeping | restarting => exact (by decide : (2 : Int) ≠ 0)
      | clearing | starting => trivial
      | exited => exact h

theorem call_inv {s t : State} (i : Nat) (h : Inv s) (hok : undisturbed s (.call i) = true)
    (hs : step s (.call i) = some t) : Inv t := by
  obtain ⟨r, hr, hs⟩ := Option.bind_eq_some_iff.mp hs
  obtain ⟨⟨v, pc⟩, hcall, rfl⟩ := Option.map_eq_some_iff.mp hs
  simp only [undisturbed, hr, Bool.or_eq_true] at hok
  cases hpc : r.pc with
  | returned => simp [requestReinit, hpc] at hcall
  | compare =>
      simp only [requestReinit, hpc, Option.some.injEq, Prod.mk.injEq] at hcall
      obtain ⟨rfl, rfl⟩ := hcall
      refine write_inv h h.flag h.main (fun _ ho => ho) (fun hret => ?_)
      split_ifs at hret with hlt
      refine compare_owed h (Int.not_lt.mp hlt) (hok.imp_right fun hok => ?_)
      cases hm : r.mode with
      | reload => simpa [hm, hpc] using hok
      | inMemory => exact .inl rfl
  | store =>
      simp only [requestReinit, hpc, Option.some.injEq, Prod.mk.injEq] at hcall
      obtain ⟨rfl, rfl⟩ := hcall
      have hmain : MainInv r.mode.value s.main := by
        refine store_main h (hok.imp_right fun hok => ?_)
        cases hm : r.mode with
        | reload => left; simpa [hm, hpc] using hok
        | inMemory => exact .inr rfl
      refine write_inv h ?_ hmain (fun mode ho => ho.write ?_ fun h1 => ?_) (fun _ => stored_owed hmain)
      · cases r.mode <;> simp [Flag, Mode.value]
      · cases r.mode <;> simp [Mode.value]
      · cases hm : r.mode with
        | reload => exact .inl rfl
        | inMemory =>
            refine .inr (hok.elim (fun hc => ?_) (fun hne => ?_))
            · simpa only [committed, decide_eq_true_eq] using hc
            · simp [hm, hpc, h1] at hne

theorem step_inv {s t : State} (a : Act) (h : Inv s) (hok : undisturbed s a = true)
    (hs : step s a = some t) : Inv t := by
  cases a with
  | arrive mode =>
      cases hs
      refine ⟨h.flag, h.main, fun r hr hpc hun => ?_⟩
      rcases List.mem_append.mp hr with hr | hr
      · exact h.owed r hr hpc hun
      · rw [List.mem_singleton.mp hr] at hpc
        cases hpc
  | call i => exact call_inv i h hok hs
  | main => exact handleReinit_inv h hs
  | restarted ret =>
      simp only [step] at hs
      split at hs
      · next hm =>
        simp only [undisturbed, decide_eq_true_eq] at hok
        rw [if_pos hok] at hs
        cases hs
        refine ⟨h.flag, trivial, fun r hr hpc hun => ?_⟩
        have ho := h.owed r hr hpc hun
        rw [hm] at ho
        cases hmode : r.mode <;> rw [hmode] at ho <;> exact ho
      · cases hs

theorem run_inv {s : State} (h : Path step (fun s a => undisturbed s a = true) boot s) : Inv s :=
  h.invariant Inv boot_inv (fun _ a _ hi hok hs => step_inv a hi hok hs)

theorem Answered.of_serve {s t : State} {i : Nat} (hs : serve s () = some t) (h : Answered t i) : Answered s i := by
  obtain ⟨u, r, hreach, hr⟩ := h
  exact ⟨u, r, .head () trivial hs hreach, hr⟩

theorem answered_of_starting {s : State} {i : Nat} {r : Request} {m : Int} (hm : s.main = .starting m)
    (hr : s.requests[i]? = some r) (hpc : r.pc = .returned) (hmode : r.mode = .inMemory ∨ m = 1) :
    Answered s i := by
  have hs : serve s () = some { s with requests := s.requests.map (answer m), main := .restarting } := by
    simp only [serve, handleReinit, hm]
  refine .of_serve hs ⟨_, answer m r, .refl, by simp [hr], ?_⟩
  rw [answer, if_pos ⟨hpc, hmode⟩]

theorem answered_of_clearing {s : State} {i : Nat} {r : Request} {m : Int} (hm : s.main = .clearing m)
    (hr : s.requests[i]? = some r) (hpc : r.pc = .returned) (hmode : r.mode = .inMemory ∨ m = 1) :
    Answered s i := by
  have hs : serve s () = some { s with reinit := 0, main := .starting m } := by
    simp only [serve, handleReinit, hm]
  exact .of_serve hs (answered_of_starting rfl hr hpc hmode)

theorem answered_of_sleeping {s : State} {i : Nat} {r : Request} {m : Int} (hm : s.main = .sleeping m)
    (hr : s.requests[i]? = some r) (hpc : r.pc = .returned) (hflag : s.reinit ≠ 0)
    (hmode : r.mode = .inMemory ∨ s.reinit = 1) : Answered s i := by
  have hs : serve s () = some { s with main := .clearing s.reinit } := by
    simp only [serve, handleReinit, hm, ne_eq, hflag, not_false_eq_true, if_true]
  exact .of_serve hs (answered_of_clearing rfl hr hpc hmode)

theorem answered_of_loop {s : State} {i : Nat} {r : Request} (hm : s.main = .loop)
    (hr : s.requests[i]? = some r) (hpc : r.pc = .returned) (hflag : s.reinit ≠ 0)
    (hmode : r.mode = .inMemory ∨ s.reinit = 1) : Answered s i := by
  have hs : serve s () = some { s with main := .sleeping s.reinit } := by
    simp only [serve, handleReinit, hm, hflag, if_false]
  exact .of_serve hs (answered_of_sleeping rfl hr hpc hflag hmode)

theorem answered_of_restarting {s : State} {i : Nat} {r : Request} (hm : s.main = .restarting)
    (hr : s.requests[i]? = some r) (hpc : r.pc = .returned) (hflag : s.reinit ≠ 0)
    (hmode : r.mode = .inMemory ∨ s.reinit = 1) : Answered s i := by
  have hs : serve s () = some { s with main := .loop } := by simp only [serve, hm]
  exact .of_serve hs (answered_of_loop rfl hr hpc hflag hmode)

theorem answered_of_owed {s : State} {i : Nat} {r : Request} (hr : s.requests[i]? = some r)
    (hpc : r.pc = .returned) (ho : Owed s.reinit s.main r.mode) : Answered s i := by
  have hpolled (h1 : ∀ mode, r.mode = mode → Owed s.reinit .loop mode) :
      s.reinit ≠ 0 ∧ (r.mode = .inMemory ∨ s.reinit = 1) := by
    cases hmode : r.mode with
    | reload =>
        have h1 : s.reinit = 1 := h1 .reload hmode
        exact ⟨by omega, .inr h1⟩
    | inMemory => exact ⟨h1 .inMemory hmode, .inl rfl⟩
  have hmode_of (m : Int) (h : Owed s.reinit (.clearing m) r.mode) : r.mode = .inMemory ∨ m = 1 := by
    cases hmode : r.mode with
    | reload => rw [hmode] at h; exact .inr h
    | inMemory => exact .inl rfl
  cases hm : s.main with
  | loop =>
      obtain ⟨hflag, hmode⟩ := hpolled (fun mode he => by rw [hm, he] at ho; exact ho)
      exact answered_of_loop hm hr hpc hflag hmode
  | sleeping m =>
      obtain ⟨hflag, hmode⟩ := hpolled (fun mode he => by rw [hm, he] at ho; cases mode <;> exact ho)
      exact answered_of_sleeping hm hr hpc hflag hmode
  | restarting =>
      obtain ⟨hflag, hmode⟩ := hpolled (fun mode he => by rw [hm, he] at ho; cases mode <;> exact ho)
      exact answered_of_restarting hm hr hpc hflag hmode
  | clearing m =>
      rw [hm] at ho
      exact answered_of_clearing hm hr hpc (hmode_of m ho)
  | starting m =>
      rw [hm] at ho
      by_cases hnow : r.mode = .inMemory ∨ m = 1
      · exact answered_of_starting hm hr hpc hnow
      · obtain ⟨hmem, hne⟩ := not_or.mp hnow
        have hflag : s.reinit = 1 := by
          cases hmode : r.mode with
          | reload => rw [hmode] at ho; exact ho.resolve_left hne
          | inMemory => exact absurd hmode hmem
        have hs : serve s () = some { s with requests := s.requests.map (answer m), main := .restarting } := by
          simp only [serve, handleReinit, hm]
        have hleft : (s.requests.map (answer m))[i]? = some r := by
          rw [List.getElem?_map, hr, Option.map_some, answer, if_neg (fun h => hnow h.2)]
        exact .of_serve hs (answered_of_restarting rfl hleft hpc (by rw [hflag]; decide) (.inr hflag))
  | exited => rw [hm] at ho; exact ho.elim

theorem inv_followed {s : State} (h : Inv s) : Followed s := by
  intro i r hr hpc
  cases hserved : r.served with
  | true => exact ⟨s, r, .refl, hr, hserved⟩
  | false => exact answered_of_owed hr hpc (h.owed r (List.mem_of_getElem? hr) hpc hserved)

theorem inv_priority {s : State} (h : Inv s) : Priority s := by
  intro m hm r hr hpc hmode hun
  have ho := h.owed r hr hpc hun
  rw [hm, hmode] at ho
  exact ho

/-- In a run in which no reload request is overwritten, dropped or cleared
unseen, every request is followed by its restart and a pending reload decides
the mode. -/
theorem requests_followed {s : State} (h : Path step (fun s a => undisturbed s a = true) boot s) :
    Followed s ∧ Priority s :=
  ⟨inv_followed (run_inv h), inv_priority (run_inv h)⟩

/-- Two in-memory requests, the second during the sleep, then a reload that
finds the main loop restarting. -/
def orderly : List Act :=
  [.arrive .inMemory, .call 0, .call 0, .main, .arrive .inMemory, .call 1, .main, .main, .main,
    .arrive .reload, .call 2, .call 2, .restarted 0]

theorem orderly_runs : (runIf step undisturbed boot orderly).isSome = true := by decide

theorem requests_followed_orderly : ∃ s, runIf step undisturbed boot orderly = some s ∧
    s.reinit = 1 ∧ Followed s ∧ Priority s := by
  have hget := (Option.some_get orderly_runs).symm
  exact ⟨_, hget, by rfl, requests_followed (path_of_runIf orderly (fun _ _ h => h) hget)⟩

def Forgotten (i : Nat) (r : Request) (s : State) : Prop :=
  s.requests[i]? = some r ∧ s.reinit ≠ 1 ∧ s.main ≠ .sleeping 1 ∧ s.main ≠ .clearing 1 ∧ s.main ≠ .starting 1

theorem forgotten_serve {s t : State} {i : Nat} {r : Request} (hr : r.mode = .reload) (h : Forgotten i r s)
    (hs : serve s () = some t) : Forgotten i r t := by
  obtain ⟨hget, hflag, hsleep, hclear, hstart⟩ := h
  cases hm : s.main with
  | loop =>
      simp only [serve, handleReinit, hm, Option.some.injEq] at hs
      subst hs
      refine ⟨hget, hflag, ?_, ?_, ?_⟩ <;> dsimp only <;> split_ifs <;> simp [hflag]
  | sleeping m =>
      simp only [serve, handleReinit, hm, Option.some.injEq] at hs
      subst hs
      refine ⟨hget, hflag, by simp, ?_, by simp⟩
      dsimp only
      split_ifs
      · simpa using hflag
      · simpa [hm] using hsleep
  | clearing m =>
      simp only [serve, handleReinit, hm, Option.some.injEq] at hs
      subst hs
      exact ⟨hget, by simp, by simp, by simp, by simpa [hm] using hclear⟩
  | starting m =>
      simp only [serve, handleReinit, hm, Option.some.injEq] at hs
      subst hs
      have hne : m ≠ 1 := by simpa [hm] using hstart
      refine ⟨?_, hflag, by simp, by simp, by simp⟩
      rw [List.getElem?_map, hget, Option.map_some, answer, if_neg (by simp [hr, hne])]
  | restarting =>
      simp only [serve, hm, Option.some.injEq] at hs
      subst hs
      exact ⟨hget, hflag, by simp, by simp, by simp⟩
  | exited => simp [serve, handleReinit, hm] at hs

theorem forgotten_not_followed {s : State} {i : Nat} {r : Request} (hr : r.mode = .reload)
    (hpc : r.pc = .returned) (hun : r.served = false) (h : Forgotten i r s) : ¬ Followed s := by
  intro hf
  obtain ⟨t, r', hreach, hget, hserved⟩ := hf i r h.1 hpc
  have hstill := hreach.invariant (Forgotten i r) h (fun _ _ _ hi _ hs => forgotten_serve hr hi hs)
  rw [hstill.1] at hget
  cases hget
  rw [hun] at hserved
  cases hserved

/-- SIGHUP, then a restart-required set while the main loop sleeps. -/
def overwritten : List Act :=
  [.arrive .reload, .call 0, .call 0, .main, .arrive .inMemory, .call 1, .call 1, .main]

theorem overwritten_state : run step boot overwritten =
    some ⟨2, [⟨.reload, .returned, false⟩, ⟨.inMemory, .returned, false⟩], .clearing 2⟩ := rfl

/-- Once a reload is overwritten no later step of the main loop reloads. -/
theorem reload_forgotten : ∃ s, run step boot overwritten = some s ∧ ¬ Followed s ∧ ¬ Priority s := by
  refine ⟨_, overwritten_state, ?_, fun h => ?_⟩
  · have hlost : Forgotten 0 ⟨.reload, .returned, false⟩
        ⟨2, [⟨.reload, .returned, false⟩, ⟨.inMemory, .returned, false⟩], .clearing 2⟩ :=
      ⟨rfl, by decide, by decide, by decide, by decide⟩
    exact forgotten_not_followed rfl rfl rfl hlost
  · exact absurd (h 2 rfl ⟨.reload, .returned, false⟩ (by simp) rfl rfl rfl) (by decide)

end WaybeamVenc.Reinit

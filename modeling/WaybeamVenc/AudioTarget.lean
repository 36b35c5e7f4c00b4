import WaybeamVenc.Runs
import WaybeamVenc.OutputSocket
import Mathlib.Data.List.Basic
import Mathlib.Tactic.SplitIfs

namespace WaybeamVenc.AudioTarget

open Runs SharedFields OutputSocket

structure Target where
  socketHandle : Int
  dst : SockAddr
  dstLen : UInt32
deriving DecidableEq

/-- The fields of the audio output that stay as star6e_audio_output_init left them. -/
structure AudioOutput where
  socketHandle : Int
  fallbackDst : SockAddr
  fallbackDstLen : UInt32
  portOverride : UInt16

def resolveShared : Loads Val (Option Target) :=
  .load .socketHandle fun (fd : Int) => if fd < 0 then .done none else
  .load .ring fun (ring : Bool) => if ring then .done none else
  .load .dstLen fun (len : UInt32) => if len = 0 then .done none else
  .load .socketHandle fun (fd : Int) => .load .dst fun (dst : SockAddr) => .load .dstLen fun (len : UInt32) =>
  .done (some ⟨fd, dst, len⟩)

def resolveDedicated (ao : AudioOutput) : Loads Val (Option Target) :=
  let fallback : Loads Val (Option Target) := .done (some ⟨ao.socketHandle, ao.fallbackDst, ao.fallbackDstLen⟩)
  if ao.socketHandle < 0 then .done none else
  .load .transport fun (transport : UriType) => if transport ≠ .udp then fallback else
  .load .dstLen fun (len : UInt32) => if len ≠ sizeofSockaddrIn then fallback else
  .load .dst fun (dst : SockAddr) => .load .dstLen fun (len : UInt32) =>
  .done (some ⟨ao.socketHandle, storePort dst ao.portOverride, len⟩)

def resolveAudioTarget (ao : AudioOutput) : Loads Val (Option Target) :=
  if ao.portOverride = 0 then resolveShared else resolveDedicated ao

/-- Where star6e_output_apply_server is, with the stores it has still to do. -/
inductive WritePc
  | idle
  | opening (stores : List OutputChange)
  | writing (stores : List OutputChange)

/-- Where resolve_cached_audio_target is. start is the number of generation
changes the program had seen when this call loaded its first field. -/
inductive ReadPc
  | idle
  | loadGen
  | resolving (start : Option Nat) (p : Loads Val (Option Target))
  | recheck (start : Option Nat) (target : Target)

structure Cache where
  cachedTarget : Target
  cachedGen : UInt32

/-- The two threads and their history: changes counts the generation changes,
stable lists the outputs of the even generations, hits what cache hits returned. -/
structure State where
  output : Output
  transportGen : UInt32
  writer : WritePc
  reader : ReadPc
  cache : Option Cache
  changes : Nat
  stable : List (UInt32 × Output)
  hits : List Target

inductive Act
  | applyServer (uri : OutputUri) (fd : Int)
  | writer
  | resolve
  | reader

variable (inetPton : List UInt8 → Option (UInt8 × UInt8 × UInt8 × UInt8)) (ao : AudioOutput)

def start (o : Output) (gen : UInt32) : State := ⟨o, gen, .idle, .idle, none, 0, [(gen, o)], []⟩

def applyServer (s : State) (uri : OutputUri) (fd : Int) : Option State :=
  match s.writer with
  | .idle =>
      if (s.output .ring : Bool) ∨ uri.type = .shm then some s
      else some { s with writer := .opening (configure inetPton s.output uri fd) }
  | _ => none

def writerStep (s : State) : Option State :=
  match s.writer with
  | .idle => none
  | .opening stores =>
      some { s with transportGen := s.transportGen + 1, changes := s.changes + 1, writer := .writing stores }
  | .writing (c :: stores) => some { s with output := c.apply s.output, writer := .writing stores }
  | .writing [] =>
      some { s with
        transportGen := s.transportGen + 1
        changes := s.changes + 1
        stable := s.stable ++ [(s.transportGen + 1, s.output)]
        writer := .idle }

def even (gen : UInt32) : Bool := gen &&& 1 = 0

def afterLoad (start : Option Nat) : Loads Val (Option Target) → ReadPc
  | .done none => .idle
  | .done (some target) => .recheck start target
  | p => .resolving start p

def hit (cache : Option Cache) (gen : UInt32) : Option Target :=
  match cache with
  | some c => if c.cachedGen = gen ∧ even gen then some c.cachedTarget else none
  | none => none

def readerStep (s : State) : Option State :=
  match s.reader with
  | .idle => none
  | .loadGen => match hit s.cache s.transportGen with
    | some target => some { s with reader := .idle, hits := s.hits ++ [target] }
    | none => some { s with reader := afterLoad none (resolveAudioTarget ao) }
  | .resolving _ (.done _) => none
  | .resolving start (.load f k) =>
      some { s with reader := afterLoad (some (start.getD s.changes)) (k (s.output f)) }
  | .recheck _ target =>
      if even s.transportGen then some { s with reader := .idle, cache := some ⟨target, s.transportGen⟩ }
      else some { s with reader := .idle }

def step (s : State) : Act → Option State
  | .applyServer uri fd => applyServer inetPton s uri fd
  | .writer => writerStep s
  | .resolve => match s.reader with
    | .idle => some { s with reader := .loadGen }
    | _ => none
  | .reader => readerStep ao s

/-- The target belongs to the one stable output of its generation. -/
def Existed (s : State) (gen : UInt32) (target : Target) : Prop :=
  ∃ o, (gen, o) ∈ s.stable ∧ (resolveAudioTarget ao).eval o = some target

def Coherent (s : State) : Prop :=
  (∀ c, s.cache = some c → even c.cachedGen = true ∧ Existed ao s c.cachedGen c.cachedTarget) ∧
    ∀ target ∈ s.hits, ∃ gen, Existed ao s gen target

/-- A copy is cached only if the generation has not changed since its first load. -/
def CachesUnchanged (s : State) : Act → Prop
  | .reader => ∀ start target, s.reader = .recheck start target → even s.transportGen = true →
      start = none ∨ start = some s.changes
  | _ => True

/-- Stores happen in odd generations only, and each even one is on record. -/
def WriterInv (s : State) : Prop :=
  match s.writer with
  | .idle | .opening _ => even s.transportGen = true ∧ s.changes % 2 = 0 ∧ (s.transportGen, s.output) ∈ s.stable
  | .writing _ => even s.transportGen = false ∧ s.changes % 2 = 1

/-- A call whose first load was in the current generation computes what
resolve_audio_target yields on the output as it is. -/
def Copies (s : State) (start : Option Nat) (p : Loads Val (Option Target)) : Prop :=
  match start with
  | none => p = resolveAudioTarget ao
  | some c => c ≤ s.changes ∧ (c = s.changes → s.changes % 2 = 0 →
      p.eval s.output = (resolveAudioTarget ao).eval s.output)

def ReaderInv (s : State) : ReadPc → Prop
  | .idle | .loadGen => True
  | .resolving start p => Copies ao s start p
  | .recheck start target => Copies ao s start (.done (some target))

structure Inv (s : State) : Prop where
  writer : WriterInv s
  reader : ReaderInv ao s s.reader
  coherent : Coherent ao s
  gens : ∀ e ∈ s.stable, even e.1 = true

theorem even_iff (gen : UInt32) : even gen = true ↔ gen.toNat % 2 = 0 := by
  rw [even, decide_eq_true_eq, ← UInt32.toNat_inj, UInt32.toNat_and, show (1 : UInt32).toNat = 1 from rfl,
    Nat.and_one_is_mod]
  rfl

theorem even_succ (gen : UInt32) : even (gen + 1) = true ↔ even gen = false := by
  rw [← Bool.not_eq_true, even_iff, even_iff, UInt32.toNat_add]
  have hlt := gen.toNat_lt
  change (gen.toNat + 1) % 2 ^ 32 % 2 = 0 ↔ _
  omega

theorem Copies.afterLoad {s : State} {start : Option Nat} {p : Loads Val (Option Target)}
    (h : Copies ao s start p) : ReaderInv ao s (afterLoad start p) := by
  cases p with
  | done r =>
      cases r with
      | none => trivial
      | some target => exact h
  | load f k => exact h

theorem Copies.load {s : State} {start : Option Nat} {f : Field} {k : Val f → Loads Val (Option Target)}
    (h : Copies ao s start (.load f k)) : Copies ao s (some (start.getD s.changes)) (k (s.output f)) := by
  cases start with
  | none =>
      refine ⟨Nat.le_refl _, fun _ _ => ?_⟩
      rw [← show Loads.load f k = resolveAudioTarget ao from h, Loads.eval_load]
  | some c => exact h

theorem Existed.mono {s t : State} {gen : UInt32} {target : Target} (h : Existed ao s gen target)
    (hsub : s.stable ⊆ t.stable) : Existed ao t gen target := by
  obtain ⟨o, ho, heval⟩ := h
  exact ⟨o, hsub ho, heval⟩

theorem Coherent.mono {s t : State} (h : Coherent ao s) (hc : t.cache = s.cache) (hh : t.hits = s.hits)
    (hsub : s.stable ⊆ t.stable) : Coherent ao t := by
  refine ⟨fun c hcache => ?_, fun target ht => ?_⟩
  · rw [hc] at hcache
    exact (h.1 c hcache).imp_right (.mono ao · hsub)
  · rw [hh] at ht
    obtain ⟨gen, hgen⟩ := h.2 target ht
    exact ⟨gen, hgen.mono ao hsub⟩

theorem start_inv (o : Output) {gen : UInt32} (h : even gen = true) : Inv ao (start o gen) := by
  refine ⟨⟨h, rfl, List.mem_singleton_self _⟩, trivial, ⟨fun c hc => ?_, fun t ht => ?_⟩, fun e he => ?_⟩
  · cases hc
  · cases ht
  · rw [List.mem_singleton.mp he]; exact h

/-- A generation change makes every copy begun before it stale. -/
theorem Copies.bump {s t : State} {start : Option Nat} {p : Loads Val (Option Target)}
    (h : Copies ao s start p) (hc : t.changes = s.changes + 1) : Copies ao t start p := by
  cases start with
  | none => exact h
  | some c =>
      have hle := h.1
      exact ⟨by omega, fun he => by omega⟩

theorem ReaderInv.bump {s t : State} {pc : ReadPc} (h : ReaderInv ao s pc) (hc : t.changes = s.changes + 1) :
    ReaderInv ao t pc := by
  cases pc with
  | idle | loadGen => trivial
  | resolving start p => exact Copies.bump ao h hc
  | recheck start target => exact Copies.bump ao h hc

theorem ReaderInv.store {s t : State} {pc : ReadPc} (h : ReaderInv ao s pc) (hc : t.changes = s.changes)
    (hodd : s.changes % 2 = 1) : ReaderInv ao t pc := by
  have copies (start : Option Nat) (p : Loads Val (Option Target)) (hp : Copies ao s start p) :
      Copies ao t start p := by
    cases start with
    | none => exact hp
    | some c => exact ⟨by rw [hc]; exact hp.1, fun _ he => by omega⟩
  cases pc with
  | idle | loadGen => trivial
  | resolving start p => exact copies start p h
  | recheck start target => exact copies start _ h

theorem applyServer_inv {s t : State} (uri : OutputUri) (fd : Int) (h : Inv ao s)
    (hs : applyServer inetPton s uri fd = some t) : Inv ao t := by
  rw [applyServer] at hs
  cases hw : s.writer with
  | idle =>
      have hidle := h.writer
      rw [WriterInv, hw] at hidle
      simp only [hw] at hs
      split_ifs at hs
      · cases hs; exact h
      · cases hs; exact ⟨hidle, h.reader, h.coherent, h.gens⟩
  | opening stores | writing stores => simp [hw] at hs

theorem writerStep_inv {s t : State} (h : Inv ao s) (hs : writerStep s = some t) : Inv ao t := by
  have hwriter := h.writer
  rw [writerStep] at hs
  split at hs <;> rename_i hw <;> rw [WriterInv, hw] at hwriter
  case h_1 => cases hs
  case h_2 stores =>
      cases hs
      obtain ⟨heven, hcount, _⟩ := hwriter
      refine ⟨⟨?_, by change (s.changes + 1) % 2 = 1; omega⟩, h.reader.bump ao rfl,
        h.coherent.mono ao rfl rfl (List.Subset.refl _), h.gens⟩
      rw [← Bool.not_eq_true, even_succ, heven]
      decide
  case h_3 c stores =>
      cases hs
      exact ⟨hwriter, h.reader.store ao rfl hwriter.2, h.coherent.mono ao rfl rfl (List.Subset.refl _), h.gens⟩
  case h_4 =>
      cases hs
      obtain ⟨hodd, hcount⟩ := hwriter
      have heven : even (s.transportGen + 1) = true := (even_succ _).mpr hodd
      refine ⟨⟨heven, by change (s.changes + 1) % 2 = 0; omega, ?_⟩, h.reader.bump ao rfl,
        h.coherent.mono ao rfl rfl (List.subset_append_left _ _), fun e he => ?_⟩
      · exact List.mem_append_right _ (List.mem_singleton_self _)
      · rcases List.mem_append.mp he with he | he
        · exact h.gens e he
        · rw [List.mem_singleton.mp he]; exact heven

/-- An even generation has its output on record. -/
theorem Inv.stable_mem {s : State} (h : Inv ao s) (heven : even s.transportGen = true) :
    s.changes % 2 = 0 ∧ (s.transportGen, s.output) ∈ s.stable := by
  have hw := h.writer
  rw [WriterInv] at hw
  split at hw
  · exact hw.2
  · exact hw.2
  · rw [hw.1] at heven; cases heven

theorem hit_some {cache : Option Cache} {gen : UInt32} {target : Target} (h : hit cache gen = some target) :
    ∃ c, cache = some c ∧ c.cachedTarget = target := by
  cases cache with
  | none => cases h
  | some c =>
      simp only [hit] at h
      split_ifs at h
      cases h
      exact ⟨c, rfl, rfl⟩

theorem readerStep_inv {s t : State} (h : Inv ao s) (hok : CachesUnchanged s .reader)
    (hs : readerStep ao s = some t) : Inv ao t := by
  have hreader := h.reader
  rw [readerStep] at hs
  split at hs <;> rename_i hr <;> rw [hr] at hreader
  case h_1 | h_3 => cases hs
  case h_2 =>
      split at hs
      · next target hhit =>
        cases hs
        refine ⟨h.writer, trivial, ⟨h.coherent.1, fun u hu => ?_⟩, h.gens⟩
        rcases List.mem_append.mp hu with hu | hu
        · exact h.coherent.2 u hu
        · obtain ⟨c, hc, hct⟩ := hit_some hhit
          rw [List.mem_singleton.mp hu, ← hct]
          exact ⟨c.cachedGen, (h.coherent.1 c hc).2⟩
      · cases hs
        have hcopy : Copies ao s none (resolveAudioTarget ao) := rfl
        exact ⟨h.writer, hcopy.afterLoad ao, h.coherent, h.gens⟩
  case h_4 start f k =>
      cases hs
      have hcopy : Copies ao s start (.load f k) := hreader
      exact ⟨h.writer, (hcopy.load ao).afterLoad ao, h.coherent, h.gens⟩
  case h_5 start target =>
      split at hs
      · next heven =>
        cases hs
        obtain ⟨hcount, hmem⟩ := h.stable_mem ao heven
        refine ⟨h.writer, trivial, ⟨fun c hc => ?_, h.coherent.2⟩, h.gens⟩
        cases hc
        refine ⟨heven, s.output, hmem, ?_⟩
        rcases hok start target hr heven with rfl | rfl
        · rw [← show Loads.done (some target) = resolveAudioTarget ao from hreader]; rfl
        · exact (hreader.2 rfl hcount).symm
      · cases hs
        exact ⟨h.writer, trivial, h.coherent, h.gens⟩

theorem step_inv {s t : State} (a : Act) (h : Inv ao s) (hok : CachesUnchanged s a)
    (hs : step inetPton ao s a = some t) : Inv ao t := by
  cases a with
  | applyServer uri fd => exact applyServer_inv inetPton ao uri fd h hs
  | writer => exact writerStep_inv ao h hs
  | reader => exact readerStep_inv ao h hok hs
  | resolve =>
      simp only [step] at hs
      split at hs
      · cases hs; exact ⟨h.writer, trivial, h.coherent, h.gens⟩
      · cases hs

/-- If the audio thread caches only what it copied within one generation, the
cache and its hits are targets the video output really had. -/
theorem unchanged_copies_coherent {o : Output} {gen : UInt32} (hgen : even gen = true) {s : State}
    (h : Path (step inetPton ao) CachesUnchanged (start o gen) s) : Coherent ao s :=
  (h.invariant (Inv ao) (start_inv ao o hgen) (fun _ a _ hi hok hs => step_inv inetPton ao a hi hok hs)).coherent

/-- Audio follows a udp:// video output on socket 3. -/
def following : AudioOutput := ⟨-1, [], 0, 0⟩

def udpOutput : Output
  | .socketHandle => (3 : Int)
  | .ring => false
  | .dst => storeBytes (storePort (storeBytes zeroAddr 0 [2, 0]) 5600) 4 [10, 0, 0, 1]
  | .dstLen => sizeofSockaddrIn
  | .transport => UriType.udp

def noPton (_ : List UInt8) : Option (UInt8 × UInt8 × UInt8 × UInt8) := none

def unixUri : OutputUri := ⟨.unix, [], 0, [118, 101, 110, 99]⟩

/-- A switch to unix:// that ends before the audio thread starts to copy. -/
def switchedBefore : List Act :=
  .resolve :: .reader :: List.replicate 6 .reader ++ .reader :: .applyServer unixUri 4 :: List.replicate 9 .writer ++
    .resolve :: List.replicate 8 .reader ++ [.resolve, .reader]

def cachesUnchanged (s : State) : Act → Bool
  | .reader => match s.reader with
    | .recheck start _ => start = some s.changes
    | _ => true
  | _ => true

theorem cachesUnchanged_spec (s : State) (a : Act) (h : cachesUnchanged s a = true) : CachesUnchanged s a := by
  cases a with
  | reader =>
      intro start target hr _
      simp only [cachesUnchanged, hr, decide_eq_true_eq] at h
      exact .inr h
  | applyServer | writer | resolve => trivial

theorem switchedBefore_runs : (runIf (step noPton following) cachesUnchanged (start udpOutput 2)
    switchedBefore).isSome = true := by decide +kernel

theorem unchanged_copies_coherent_switched : ∃ s,
    runIf (step noPton following) cachesUnchanged (start udpOutput 2) switchedBefore = some s ∧
      s.hits.length = 1 ∧ Coherent following s := by
  have hget := (Option.some_get switchedBefore_runs).symm
  exact ⟨_, hget, by decide +kernel, unchanged_copies_coherent noPton following (by decide)
    (path_of_runIf switchedBefore cachesUnchanged_spec hget)⟩

/-- The same switch after the audio thread has loaded the address and before it
loads the length. -/
def switchedDuring : List Act :=
  .resolve :: List.replicate 6 .reader ++ .applyServer unixUri 4 :: List.replicate 9 .writer ++ List.replicate 2 .reader

theorem switchedDuring_runs : (run (step noPton following) (start udpOutput 2) switchedDuring).isSome = true := by
  decide +kernel

def afterSwitch : State := (run (step noPton following) (start udpOutput 2) switchedDuring).get switchedDuring_runs

def tornTarget : Target := ⟨3, udpOutput .dst, 7⟩

theorem afterSwitch_cache : afterSwitch.cache.map (fun c => (c.cachedGen, c.cachedTarget)) = some (4, tornTarget) := by
  decide +kernel

theorem afterSwitch_stable : ∀ r ∈ afterSwitch.stable.map (fun e => (e.1, (resolveAudioTarget following).eval e.2)),
    r ≠ (4, some tornTarget) := by
  decide +kernel

/-- The closed socket and the old address are cached, with the new length,
under the new generation. -/
theorem torn_target_cached : ∃ s, run (step noPton following) (start udpOutput 2) switchedDuring = some s ∧
    ¬ Coherent following s := by
  refine ⟨afterSwitch, (Option.some_get switchedDuring_runs).symm, fun h => ?_⟩
  obtain ⟨c, hc, hpair⟩ := Option.map_eq_some_iff.mp afterSwitch_cache
  obtain ⟨_, o, ho, heval⟩ := h.1 c hc
  obtain ⟨hgen, htarget⟩ := Prod.mk.inj hpair
  rw [hgen] at ho
  rw [htarget] at heval
  exact afterSwitch_stable _ (List.mem_map.mpr ⟨_, ho, rfl⟩) (by rw [heval])

end WaybeamVenc.AudioTarget

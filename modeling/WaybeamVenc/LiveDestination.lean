import WaybeamVenc.OutputUri

namespace WaybeamVenc.LiveDestination

open CNumber SharedFields OutputSocket OutputUri

/-- An output, and whether its UDP socket is connected. -/
structure Destination where
  output : Output
  connectedUdp : Bool

/-- What the system answers: the descriptor of a new socket, whether connect
succeeds, and the addresses that are valid. -/
structure Answers where
  fd : Int
  connects : Bool
  inetPton : List UInt8 → Option (UInt8 × UInt8 × UInt8 × UInt8)

def socketHandle (o : Output) : Int := o .socketHandle

def reopens (o : Output) (uri : OutputUri) : Prop := socketHandle o < 0 ∨ (o .transport : UriType) ≠ uri.type

instance (o : Output) (uri : OutputUri) : Decidable (reopens o uri) := inferInstanceAs (Decidable (_ ∨ _))

def stored (o : Output) (stores : List OutputChange) : Output := stores.foldl Change.apply o

/-- output_socket_configure, true for a return of zero. There is no request
where the caller does not ask for a connected socket at all. -/
def outputSocketConfigure (a : Answers) (d : Destination) (uri : OutputUri) (requestedConnectedUdp : Option Bool) :
    Bool × Destination :=
  if uri.type = .shm then (false, d)
  else
    let output := stored d.output (configure a.inetPton d.output uri a.fd)
    if reopens d.output uri ∧ a.fd < 0 then (false, { d with output := output })
    else if (fillDestination a.inetPton uri).2 = false then (false, { d with output := output })
    else match requestedConnectedUdp with
      | none => (true, { d with output := output })
      | some requested => (true, ⟨output, uri.type = .udp && requested && a.connects⟩)

def applyServer (a : Answers) (requestedConnectedUdp : Option Bool) (d : Destination) (uri : CString) :
    Bool × Destination :=
  if d.output .ring then (false, d)
  else match vencConfigParseOutputUri uri with
    | none => (false, d)
    | some parsed =>
      if parsed.type = .shm then (false, d) else outputSocketConfigure a d parsed requestedConnectedUdp

def star6eOutputApplyServer (a : Answers) (requestedConnectedUdp : Bool) (d : Destination) (uri : CString) :
    Bool × Destination := applyServer a (some requestedConnectedUdp) d uri

def marukoOutputApplyServer (a : Answers) (d : Destination) (uri : CString) : Bool × Destination :=
  applyServer a none d uri

/-! What a change of the destination should do. -/

def udpAddress (port : UInt16) (host : UInt8 × UInt8 × UInt8 × UInt8) : SockAddr :=
  [(2 : UInt8), 0, (port >>> 8).toUInt8, port.toUInt8, host.1, host.2.1, host.2.2.1, host.2.2.2] ++
    List.replicate 120 0

def unixAddress (name : List UInt8) : SockAddr := [(1 : UInt8), 0, 0] ++ name ++ List.replicate (125 - name.length) 0

structure Describes (a : Answers) (uri : OutputUri) (o : Output) : Prop where
  open_ : 0 ≤ socketHandle o
  transport : o .transport = uri.type
  address : match uri.type with
    | .udp => ∃ host, a.inetPton uri.host = some host ∧ o .dst = udpAddress uri.port host ∧ o .dstLen = (16 : UInt32)
    | .unix => o .dst = unixAddress uri.endpoint ∧ o .dstLen = UInt32.ofNat (3 + uri.endpoint.length)
    | .shm => False

/-- A failed change keeps everything, a successful one makes the output send to
the address, connected if it was asked for and could be. -/
structure Atomic (a : Answers) (requestedConnectedUdp : Option Bool) (d : Destination) (uri : CString)
    (r : Bool × Destination) : Prop where
  kept : r.1 = false → r.2 = d
  set : r.1 = true → ∃ parsed, vencConfigParseOutputUri uri = some parsed ∧ Describes a parsed r.2.output ∧
    ∀ requested, requestedConnectedUdp = some requested →
      r.2.connectedUdp = (decide (parsed.type = .udp) && requested && a.connects)

def unfinishedAddress (port : UInt16) : SockAddr := storePort (storeBytes zeroAddr 0 [2, 0]) port

/-- The change goes through, or it fails where there was nothing to lose. -/
def Harmless (a : Answers) (o : Output) (uri : OutputUri) : Prop :=
  ((fillDestination a.inetPton uri).2 = true ∧ (reopens o uri → 0 ≤ a.fd)) ∨
    (a.fd < 0 ∧ socketHandle o = a.fd) ∨
    ((fillDestination a.inetPton uri).2 = false ∧ 0 ≤ a.fd ∧ socketHandle o = -1 ∧ o .transport = uri.type ∧
      (uri.type = .unix ∨ o .dst = unfinishedAddress uri.port))

/-- A request that reaches the socket is harmless. -/
def Safe (a : Answers) (d : Destination) (uri : CString) : Prop :=
  d.output .ring = false → ∀ parsed, vencConfigParseOutputUri uri = some parsed → parsed.type ≠ .shm →
    Harmless a d.output parsed

/-! Stores, field by field. -/

theorem stored_append (o : Output) (xs ys : List OutputChange) : stored o (xs ++ ys) = stored (stored o xs) ys :=
  List.foldl_append

theorem stored_other (o : Output) {stores : List OutputChange} {f : Field} (h : ∀ c ∈ stores, c.1 ≠ f) :
    stored o stores f = o f := by
  induction stores generalizing o with
  | nil => rfl
  | cons c stores ih =>
      refine (ih (Change.apply o c) fun c' hc' => h c' (List.mem_cons_of_mem c hc')).trans ?_
      exact Function.update_of_ne (h c List.mem_cons_self).symm _ _

/-- What a fill of the destination does, apart from the two fields it stores
nothing else. -/
structure Fills (a : Answers) (uri : OutputUri) : Prop where
  other : ∀ c ∈ (fillDestination a.inetPton uri).1, c.1 = .dst ∨ c.1 = .dstLen
  ok : (fillDestination a.inetPton uri).2 = true → ∀ o, match uri.type with
    | .udp => ∃ host, a.inetPton uri.host = some host ∧
        stored o (fillDestination a.inetPton uri).1 .dst = udpAddress uri.port host ∧
        stored o (fillDestination a.inetPton uri).1 .dstLen = (16 : UInt32)
    | .unix => stored o (fillDestination a.inetPton uri).1 .dst = unixAddress uri.endpoint ∧
        stored o (fillDestination a.inetPton uri).1 .dstLen = UInt32.ofNat (3 + uri.endpoint.length)
    | .shm => False
  failed : (fillDestination a.inetPton uri).2 = false → ∀ o,
    stored o (fillDestination a.inetPton uri).1 .dstLen = o .dstLen ∧
      stored o (fillDestination a.inetPton uri).1 .dst =
        if uri.type = .udp then unfinishedAddress uri.port else o .dst

theorem fills_udp {a : Answers} {uri : OutputUri} (ht : uri.type = .udp) (hhost : uri.host ≠ [])
    (hport : uri.port ≠ 0) : Fills a uri := by
  cases hi : a.inetPton uri.host with
  | none =>
      have hf : fillDestination a.inetPton uri =
          ([setDst zeroAddr, setDst (storeBytes zeroAddr 0 [2, 0]), setDst (unfinishedAddress uri.port)], false) := by
        simp [fillDestination, fillUdpDestination, ht, hhost, hport, hi, unfinishedAddress]
      constructor
      · rw [hf]
        simp [setDst]
      · rw [hf]
        rintro ⟨⟩
      · intro _ o
        rw [hf, if_pos ht]
        exact ⟨rfl, rfl⟩
  | some host =>
      obtain ⟨b₀, b₁, b₂, b₃⟩ := host
      have hf : fillDestination a.inetPton uri =
          ([setDst zeroAddr, setDst (storeBytes zeroAddr 0 [2, 0]), setDst (unfinishedAddress uri.port),
            setDst (storeBytes (unfinishedAddress uri.port) 4 [b₀, b₁, b₂, b₃]), setDstLen sizeofSockaddrIn], true) := by
        simp [fillDestination, fillUdpDestination, ht, hhost, hport, hi, unfinishedAddress]
      constructor
      · rw [hf]
        simp [setDst, setDstLen]
      · intro _ o
        rw [hf, ht]
        exact ⟨(b₀, b₁, b₂, b₃), hi, rfl, rfl⟩
      · rw [hf]
        rintro ⟨⟩

theorem fills_unix {a : Answers} {uri : OutputUri} (ht : uri.type = .unix) (hname : uri.endpoint ≠ []) :
    Fills a uri := by
  by_cases hl : 106 < uri.endpoint.length
  · have hf : fillDestination a.inetPton uri = ([], false) := by
      simp [fillDestination, fillUnixDestination, ht, hl]
    constructor
    · rw [hf]
      simp
    · rw [hf]
      rintro ⟨⟩
    · intro _ o
      rw [hf, if_neg (by rw [ht]; decide)]
      exact ⟨rfl, rfl⟩
  · have hf : fillDestination a.inetPton uri =
        ([setDst zeroAddr, setDst (storeBytes zeroAddr 0 [1, 0]),
          setDst (storeBytes (storeBytes zeroAddr 0 [1, 0]) 3 uri.endpoint),
          setDstLen (UInt32.ofNat (2 + 1 + uri.endpoint.length))], true) := by
      simp [fillDestination, fillUnixDestination, ht, hl, hname]
    have haddr : storeBytes (storeBytes zeroAddr 0 [1, 0]) 3 uri.endpoint = unixAddress uri.endpoint := by
      have hd : (storeBytes zeroAddr 0 [1, 0]).drop (3 + uri.endpoint.length) =
          List.replicate (125 - uri.endpoint.length) 0 := by
        rw [← List.drop_drop, ← List.drop_replicate]
        rfl
      rw [storeBytes, hd]
      rfl
    constructor
    · rw [hf]
      simp [setDst, setDstLen]
    · intro _ o
      rw [hf, ht]
      exact ⟨haddr, rfl⟩
    · rw [hf]
      rintro ⟨⟩

theorem fills_parsed (a : Answers) {uri : CString} {parsed : OutputUri}
    (h : vencConfigParseOutputUri uri = some parsed) (hs : parsed.type ≠ .shm) : Fills a parsed := by
  obtain ⟨hudp, hunix⟩ := parse_wellFormed h
  cases ht : parsed.type with
  | udp => exact fills_udp ht (hudp ht).1 (hudp ht).2
  | unix => exact fills_unix ht (hunix (by rw [ht]; decide))
  | shm => exact absurd ht hs

/-! The output after a change. -/

def opened (o : Output) (uri : OutputUri) (fd : Int) : Output :=
  if reopens o uri then Function.update (Function.update o .socketHandle fd) .transport uri.type else o

variable {a : Answers} {o : Output} {uri : OutputUri}

theorem opened_other (o : Output) (uri : OutputUri) (fd : Int) {f : Field} (hs : f ≠ .socketHandle)
    (ht : f ≠ .transport) : opened o uri fd f = o f := by
  rw [opened]
  split
  · rw [Function.update_of_ne ht, Function.update_of_ne hs]
  · rfl

theorem opened_transport (o : Output) (uri : OutputUri) (fd : Int) : opened o uri fd .transport = uri.type := by
  rw [opened]
  split
  · exact Function.update_self ..
  next h => exact not_not.1 (not_or.1 h).2

theorem opened_socketHandle (h : reopens o uri → 0 ≤ a.fd) : 0 ≤ socketHandle (opened o uri a.fd) := by
  rw [opened]
  split
  next hr =>
    rw [socketHandle, Function.update_of_ne (by decide), Function.update_self]
    exact h hr
  next hr => exact Int.not_lt.1 (not_or.1 hr).1

theorem stored_close (o : Output) (fd : Int) (rest : List OutputChange) :
    stored o (closeSocketIfOpen (socketHandle o) ++ setSocket fd :: rest) =
      stored (Function.update o .socketHandle fd) rest := by
  rw [closeSocketIfOpen]
  split
  · rfl
  · refine congrArg (fun o => stored o rest) ?_
    exact Function.update_idem ..

theorem configure_reopens (h : reopens o uri) : configure a.inetPton o uri a.fd =
    closeSocketIfOpen (socketHandle o) ++ setSocket a.fd ::
      if a.fd < 0 then [] else ⟨.transport, uri.type⟩ :: fillOrClose a.inetPton uri a.fd :=
  if_pos h

theorem configure_keeps (h : ¬reopens o uri) :
    configure a.inetPton o uri a.fd = fillOrClose a.inetPton uri (socketHandle o) :=
  if_neg h

theorem stored_no_socket (h : reopens o uri) (hfd : a.fd < 0) :
    stored o (configure a.inetPton o uri a.fd) = Function.update o .socketHandle a.fd := by
  rw [configure_reopens h, if_pos hfd]
  exact stored_close o a.fd []

theorem stored_configure (h : reopens o uri → 0 ≤ a.fd) :
    stored o (configure a.inetPton o uri a.fd) =
      stored (opened o uri a.fd) (fillOrClose a.inetPton uri (socketHandle (opened o uri a.fd))) := by
  rw [opened]
  by_cases hr : reopens o uri
  · have hs : socketHandle (Function.update (Function.update o .socketHandle a.fd) .transport uri.type) = a.fd := by
      rw [socketHandle, Function.update_of_ne (by decide), Function.update_self]
    rw [if_pos hr, hs, configure_reopens hr, if_neg (Int.not_lt.2 (h hr)), stored_close]
    rfl
  · rw [if_neg hr, configure_keeps hr]

/-- The destination is valid: the output has it, on the socket it opened. -/
theorem describes_of_ok (hf : Fills a uri) (hok : (fillDestination a.inetPton uri).2 = true)
    (h : reopens o uri → 0 ≤ a.fd) : Describes a uri (stored o (configure a.inetPton o uri a.fd)) := by
  have hfc : fillOrClose a.inetPton uri (socketHandle (opened o uri a.fd)) = (fillDestination a.inetPton uri).1 := by
    simp [fillOrClose, hok]
  rw [stored_configure h, hfc]
  constructor
  · rw [socketHandle, stored_other]
    · exact opened_socketHandle h
    · intro c hc he
      rcases hf.other c hc with h' | h' <;> rw [he] at h' <;> cases h'
  · rw [stored_other]
    · exact opened_transport o uri a.fd
    · intro c hc he
      rcases hf.other c hc with h' | h' <;> rw [he] at h' <;> cases h'
  · exact hf.ok hok _

/-- The output after a destination that is not valid: the socket is closed. -/
def closed (o : Output) (uri : OutputUri) : Output :=
  Function.update (Function.update (Function.update o .transport uri.type) .socketHandle (-1 : Int)) .dst
    (if uri.type = .udp then unfinishedAddress uri.port else o .dst)

theorem stored_failed (hf : Fills a uri) (hok : (fillDestination a.inetPton uri).2 = false)
    (h : reopens o uri → 0 ≤ a.fd) : stored o (configure a.inetPton o uri a.fd) = closed o uri := by
  have hfc : fillOrClose a.inetPton uri (socketHandle (opened o uri a.fd)) =
      (fillDestination a.inetPton uri).1 ++ [setSocket (-1)] := by
    simp [fillOrClose, hok, closeSocketIfOpen, Int.not_lt.2 (opened_socketHandle h)]
  obtain ⟨hlen, hdst⟩ := hf.failed hok (opened o uri a.fd)
  rw [stored_configure h, hfc, stored_append]
  change Function.update (stored (opened o uri a.fd) (fillDestination a.inetPton uri).1) .socketHandle (-1 : Int) = _
  have hkeep : ∀ f : Field, f ≠ .dst → f ≠ .dstLen →
      stored (opened o uri a.fd) (fillDestination a.inetPton uri).1 f = opened o uri a.fd f := by
    intro f hd hl
    apply stored_other
    intro c hc he
    rcases hf.other c hc with h' | h'
    · exact hd (he.symm.trans h')
    · exact hl (he.symm.trans h')
  funext f
  cases f with
  | socketHandle => rfl
  | ring =>
      refine (hkeep .ring (by decide) (by decide)).trans ?_
      exact opened_other o uri a.fd (by decide) (by decide)
  | dst =>
      refine hdst.trans ?_
      rw [opened_other o uri a.fd (by decide) (by decide)]
      rfl
  | dstLen =>
      refine hlen.trans ?_
      exact opened_other o uri a.fd (by decide) (by decide)
  | transport =>
      refine (hkeep .transport (by decide) (by decide)).trans ?_
      exact opened_transport o uri a.fd

/-! How a change ends. -/

variable {d : Destination} {req : Option Bool}

theorem configure_ok (hs : uri.type ≠ .shm) (hok : (fillDestination a.inetPton uri).2 = true)
    (h : reopens d.output uri → 0 ≤ a.fd) :
    (outputSocketConfigure a d uri req).1 = true ∧
      (outputSocketConfigure a d uri req).2.output = stored d.output (configure a.inetPton d.output uri a.fd) ∧
      ∀ requested, req = some requested → (outputSocketConfigure a d uri req).2.connectedUdp =
        (decide (uri.type = .udp) && requested && a.connects) := by
  have hr : ¬(reopens d.output uri ∧ a.fd < 0) := fun hr => Int.not_lt.2 (h hr.1) hr.2
  rw [outputSocketConfigure, if_neg hs]
  dsimp only
  rw [if_neg hr, if_neg (by rw [hok]; decide)]
  cases req with
  | none => exact ⟨rfl, rfl, nofun⟩
  | some requested =>
      refine ⟨rfl, rfl, ?_⟩
      rintro _ ⟨rfl⟩
      rfl

theorem configure_no_socket (hs : uri.type ≠ .shm) (hr : reopens d.output uri) (hfd : a.fd < 0) :
    outputSocketConfigure a d uri req = (false, { d with output := Function.update d.output .socketHandle a.fd }) := by
  rw [outputSocketConfigure, if_neg hs, stored_no_socket hr hfd]
  exact if_pos ⟨hr, hfd⟩

theorem configure_invalid (hf : Fills a uri) (hs : uri.type ≠ .shm)
    (hok : (fillDestination a.inetPton uri).2 = false) (h : reopens d.output uri → 0 ≤ a.fd) :
    outputSocketConfigure a d uri req = (false, { d with output := closed d.output uri }) := by
  have hr : ¬(reopens d.output uri ∧ a.fd < 0) := fun hr => Int.not_lt.2 (h hr.1) hr.2
  rw [outputSocketConfigure, if_neg hs, stored_failed hf hok h]
  dsimp only
  rw [if_neg hr, if_pos hok]

theorem atomic_failed {uri : CString} {r : Bool × Destination} (h : r.1 = false) :
    Atomic a req d uri r ↔ r.2 = d := by
  constructor
  · intro ha
    exact ha.kept h
  · intro hk
    exact ⟨fun _ => hk, fun ht => absurd (h.symm.trans ht) (by decide)⟩

theorem with_output_eq (output : Output) : { d with output := output } = d ↔ output = d.output := by
  constructor
  · intro h
    exact congrArg Destination.output h
  · rintro rfl
    rfl

theorem harmless_of_failed (hok : (fillDestination a.inetPton uri).2 = false)
    (h : reopens o uri → 0 ≤ a.fd) : Harmless a o uri ↔ socketHandle o = -1 ∧ o .transport = uri.type ∧
      (uri.type = .unix ∨ o .dst = unfinishedAddress uri.port) := by
  constructor
  · rintro (⟨ht, -⟩ | ⟨hfd, he⟩ | ⟨-, -, h'⟩)
    · exact absurd (hok.symm.trans ht) (by decide)
    · exact absurd hfd (Int.not_lt.2 (h (Or.inl (he ▸ hfd))))
    · exact h'
  · intro h'
    exact Or.inr (Or.inr ⟨hok, h (Or.inl (by rw [h'.1]; decide)), h'⟩)

theorem closed_eq_iff (hs : uri.type ≠ .shm) : closed o uri = o ↔ socketHandle o = -1 ∧ o .transport = uri.type ∧
    (uri.type = .unix ∨ o .dst = unfinishedAddress uri.port) := by
  constructor
  · intro he
    refine ⟨(congrFun he .socketHandle).symm, (congrFun he .transport).symm, ?_⟩
    have hd : (if uri.type = .udp then unfinishedAddress uri.port else o .dst) = o .dst := congrFun he .dst
    cases ht : uri.type with
    | udp =>
        rw [if_pos ht] at hd
        exact Or.inr hd.symm
    | unix => exact Or.inl rfl
    | shm => exact absurd ht hs
  · rintro ⟨hh, ht, hd⟩
    funext f
    cases f with
    | socketHandle => exact hh.symm
    | ring => rfl
    | dst =>
        change (if uri.type = .udp then unfinishedAddress uri.port else o .dst) = o .dst
        split
        next hu =>
          rcases hd with hd | hd
          · exact absurd (hu.symm.trans hd) (by decide)
          · exact hd.symm
        · rfl
    | dstLen => rfl
    | transport => exact ht.symm

theorem configure_atomic {text : CString} (hp : vencConfigParseOutputUri text = some uri) (hs : uri.type ≠ .shm) :
    Atomic a req d text (outputSocketConfigure a d uri req) ↔ Harmless a d.output uri := by
  have hf := fills_parsed a hp hs
  by_cases h : reopens d.output uri → 0 ≤ a.fd
  · cases hok : (fillDestination a.inetPton uri).2 with
    | true =>
        obtain ⟨h₁, h₂, h₃⟩ : (outputSocketConfigure a d uri req).1 = true ∧ _ := configure_ok hs hok h
        refine ⟨fun _ => Or.inl ⟨hok, h⟩, fun _ => ⟨fun h' => absurd (h₁.symm.trans h') (by decide), fun _ => ?_⟩⟩
        exact ⟨uri, hp, h₂ ▸ describes_of_ok hf hok h, h₃⟩
    | false =>
        rw [configure_invalid hf hs hok h, atomic_failed rfl, harmless_of_failed hok h, ← closed_eq_iff hs]
        exact with_output_eq _
  · obtain ⟨hr, hfd⟩ := Classical.not_imp.1 h
    rw [configure_no_socket hs hr (Int.not_le.1 hfd), atomic_failed rfl]
    refine (with_output_eq _).trans ?_
    rw [Function.update_eq_self_iff]
    constructor
    · intro he
      exact Or.inr (Or.inl ⟨Int.not_le.1 hfd, he.symm⟩)
    · rintro (⟨-, h'⟩ | ⟨-, he⟩ | ⟨-, h', -⟩)
      · exact absurd (h' hr) hfd
      · exact he.symm
      · exact absurd h' hfd

theorem applyServer_atomic (a : Answers) (req : Option Bool) (d : Destination) (uri : CString) :
    Atomic a req d uri (applyServer a req d uri) ↔ Safe a d uri := by
  have hkeep : ∀ {p : Prop}, p → (Atomic a req d uri (false, d) ↔ p) := fun hp =>
    ⟨fun _ => hp, fun _ => ⟨fun _ => rfl, nofun⟩⟩
  rw [applyServer]
  split
  next hr => exact hkeep fun h => absurd (hr.symm.trans h) (by decide)
  next hr =>
    have hring : d.output .ring = false := Bool.eq_false_iff.2 hr
    cases hp : vencConfigParseOutputUri uri with
    | none =>
        exact hkeep fun _ parsed h => nomatch hp.symm.trans h
    | some parsed =>
        dsimp only
        split
        next hs =>
          refine hkeep fun _ parsed' h hs' => absurd hs ?_
          cases hp.symm.trans h
          exact hs'
        next hs =>
          rw [configure_atomic hp hs]
          constructor
          · intro hh _ parsed' h _
            cases hp.symm.trans h
            exact hh
          · intro h
            exact h hring parsed hp hs

/-- On either backend a live change of the destination keeps all or sets all
exactly when the request is safe. -/
theorem destination_atomic (a : Answers) (d : Destination) (uri : CString) :
    (∀ requestedConnectedUdp, Atomic a (some requestedConnectedUdp) d uri
        (star6eOutputApplyServer a requestedConnectedUdp d uri) ↔ Safe a d uri) ∧
      (Atomic a none d uri (marukoOutputApplyServer a d uri) ↔ Safe a d uri) :=
  ⟨fun requested => applyServer_atomic a (some requested) d uri, applyServer_atomic a none d uri⟩

def streaming : Destination where
  output
    | .socketHandle => (5 : Int)
    | .ring => false
    | .dst => udpAddress 5600 (192, 168, 1, 10)
    | .dstLen => (16 : UInt32)
    | .transport => UriType.udp
  connectedUdp := true

def hostName : CString := "udp://example.com:5600".toList

def numbersOnly : Answers := ⟨7, true, fun _ => none⟩

/-- A host name in the new address closes the socket of the old one. -/
theorem host_name_closes :
    ¬∀ (a : Answers) (requested : Bool) (d : Destination) (uri : CString),
      Atomic a (some requested) d uri (star6eOutputApplyServer a requested d uri) := by
  intro h
  have hk := (h numbersOnly true streaming hostName).kept rfl
  have hs : (star6eOutputApplyServer numbersOnly true streaming hostName).2.output .socketHandle = (-1 : Int) := rfl
  rw [hk] at hs
  exact absurd hs (by decide)

end WaybeamVenc.LiveDestination

import WaybeamVenc.SharedFields

namespace WaybeamVenc.OutputSocket

open SharedFields

inductive UriType
  | udp
  | unix
  | shm
deriving DecidableEq

structure OutputUri where
  type : UriType
  host : List UInt8
  port : UInt16
  endpoint : List UInt8

/-- The fields of the video output that the audio thread loads. -/
inductive Field
  | socketHandle
  | ring
  | dst
  | dstLen
  | transport
deriving DecidableEq

/-- The bytes of a sockaddr_storage. -/
abbrev SockAddr := List UInt8

abbrev Val : Field → Type
  | .socketHandle => Int
  | .ring => Bool
  | .dst => SockAddr
  | .dstLen => UInt32
  | .transport => UriType

abbrev Output := (f : Field) → Val f

abbrev OutputChange := Change Val

def zeroAddr : SockAddr := List.replicate 128 0

def storeBytes (a : SockAddr) (offset : Nat) (bytes : List UInt8) : SockAddr :=
  a.take offset ++ bytes ++ a.drop (offset + bytes.length)

/-- sin_port, in network byte order. -/
def storePort (a : SockAddr) (port : UInt16) : SockAddr := storeBytes a 2 [(port >>> 8).toUInt8, port.toUInt8]

def setDst (a : SockAddr) : OutputChange := ⟨.dst, a⟩

def setDstLen (n : UInt32) : OutputChange := ⟨.dstLen, n⟩

def setSocket (fd : Int) : OutputChange := ⟨.socketHandle, fd⟩

def sizeofSockaddrIn : UInt32 := 16

variable (inetPton : List UInt8 → Option (UInt8 × UInt8 × UInt8 × UInt8))

/-- The stores of output_socket_fill_udp_destination in order, and whether it
returned 0. -/
def fillUdpDestination (host : List UInt8) (port : UInt16) : List OutputChange × Bool :=
  if host = [] ∨ port = 0 then ([], false)
  else
    let family := storeBytes zeroAddr 0 [2, 0]
    let named := storePort family port
    match inetPton host with
    | none => ([setDst zeroAddr, setDst family, setDst named], false)
    | some (a, b, c, d) =>
      ([setDst zeroAddr, setDst family, setDst named, setDst (storeBytes named 4 [a, b, c, d]),
        setDstLen sizeofSockaddrIn], true)

def fillUnixDestination (name : List UInt8) : List OutputChange × Bool :=
  if name = [] ∨ 106 < name.length then ([], false)
  else
    let family := storeBytes zeroAddr 0 [1, 0]
    ([setDst zeroAddr, setDst family, setDst (storeBytes family 3 name),
      setDstLen (UInt32.ofNat (2 + 1 + name.length))], true)

def fillDestination (uri : OutputUri) : List OutputChange × Bool :=
  match uri.type with
  | .udp => fillUdpDestination inetPton uri.host uri.port
  | .unix => fillUnixDestination uri.endpoint
  | .shm => ([], false)

def closeSocketIfOpen (socketHandle : Int) : List OutputChange :=
  if socketHandle < 0 then [] else [setSocket (-1)]

def fillOrClose (uri : OutputUri) (socketHandle : Int) : List OutputChange :=
  let (stores, ok) := fillDestination inetPton uri
  stores ++ if ok then [] else closeSocketIfOpen socketHandle

/-- The stores of output_socket_configure to the fields above; fd is what
socket() returns. -/
def configure (o : Output) (uri : OutputUri) (fd : Int) : List OutputChange :=
  let socketHandle : Int := o .socketHandle
  if socketHandle < 0 ∨ o .transport ≠ uri.type then
    closeSocketIfOpen socketHandle ++ setSocket fd ::
      if fd < 0 then [] else ⟨.transport, uri.type⟩ :: fillOrClose inetPton uri fd
  else fillOrClose inetPton uri socketHandle

end WaybeamVenc.OutputSocket

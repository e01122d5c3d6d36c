import Mathlib.Data.List.MinMax
import WlanController.Foundation.ByteOrder

/-!
# The interface of the AC

An AC advertises the addresses of its interfaces, each with the number of WTPs that use it.  The WTP
takes the one with the least number, unless the AC has answered from an address that it does not
advertise.  Whether it has is found out by comparing structures that do not begin with an address,
and not for the first of them.  `IPV6` is not defined where the program is built.
-/

namespace WlanController.WTP

/-! ## Addresses -/

def afUnspec : Nat := 0

def afInet : Nat := 2

def afInet6 : Nat := 10

def cwControlPort : UInt16 := 5246

inductive SockAddress where
  | inet (addr : UInt32) (port : UInt16)
  | inet6 (addr : BitVec 128) (port : UInt16)
deriving DecidableEq

/-- A `sockaddr_storage`, with `none` for what has not been assigned. -/
structure SockaddrStorage where
  ss_family : Nat
  sin_port : Option UInt16
  sin_addr : Option UInt32
  sin6_addr : Option (BitVec 128)

namespace SockAddress

def storage : SockAddress → SockaddrStorage
  | inet addr port => ⟨afInet, some port, some addr, none⟩
  | inet6 addr port => ⟨afInet6, some port, none, some addr⟩

/-- Whatever the port is. -/
def SameHost : SockAddress → SockAddress → Prop
  | inet addr _, inet addr' _ => addr = addr'
  | inet6 addr _, inet6 addr' _ => addr = addr'
  | _, _ => False

end SockAddress

/-- The storage holds the address. -/
def SockaddrStorage.Holds (storage : SockaddrStorage) : SockAddress → Prop
  | .inet addr port =>
      storage.ss_family = afInet ∧ storage.sin_port = some port ∧ storage.sin_addr = some addr
  | .inet6 addr port =>
      storage.ss_family = afInet6 ∧ storage.sin_port = some port ∧ storage.sin6_addr = some addr

/-- `CW_COPY_NET_ADDR_PTR`. -/
def sockCpyAddrPort (sa1 sa2 : SockaddrStorage) : SockaddrStorage :=
  if sa2.ss_family = afInet then
    { sa1 with ss_family := afInet, sin_addr := sa2.sin_addr, sin_port := sa2.sin_port }
  else { sa1 with ss_family := sa2.ss_family }

/-! ## The choice -/

/-- The count is a number of 16 bits in an `int`. -/
structure CWProtocolIPv4NetworkInterface where
  WTPCount : UInt16
  addr : UInt32

structure CWProtocolIPv6NetworkInterface where
  WTPCount : UInt16
  addr : BitVec 128

/-- The bytes of the structure, the count first and then the members of a `sockaddr_in`. -/
def CWProtocolIPv4NetworkInterface.memory (x : CWProtocolIPv4NetworkInterface) : List UInt8 :=
  ByteOrder.store 4 x.WTPCount.toNat ++ (ByteOrder.store 2 afInet ++
    (BigEndian.encode 2 cwControlPort.toNat ++
      (BigEndian.encode 4 x.addr.toNat ++ List.replicate 8 0)))

/-- `sock_cmp_addr` returns 0.  The first address is what is found at a pointer. -/
def SockCmpAddr (sa1 : List UInt8) (sa2 : SockaddrStorage) : Prop :=
  ByteOrder.load (sa1.take 2) = sa2.ss_family ∧ sa2.ss_family = afInet ∧
    sa2.sin_addr = some (.ofNat (BigEndian.decode ((sa1.drop 4).take 4)))

instance (sa1 : List UInt8) (sa2 : SockaddrStorage) : Decidable (SockCmpAddr sa1 sa2) :=
  inferInstanceAs (Decidable (_ ∧ _ ∧ _))

inductive CWNetworkLev3Service where
  | CW_IPv4
  | CW_IPv6
deriving DecidableEq

/-- What is looked at of `CWACInfoValues`. -/
structure CWACInfoValues where
  IPv4Addresses : List CWProtocolIPv4NetworkInterface
  IPv6Addresses : List CWProtocolIPv6NetworkInterface
  incomingAddress : SockaddrStorage
  preferredAddress : SockaddrStorage

/-- The variables of the loops. -/
structure Picking where
  min : UInt16
  foundIncoming : Bool
  preferredAddress : SockaddrStorage

def pickIPv4Step (incomingAddress : SockaddrStorage) (picking : Picking)
    (x : CWProtocolIPv4NetworkInterface) : Picking :=
  let picking :=
    if SockCmpAddr x.memory incomingAddress then { picking with foundIncoming := true } else picking
  if x.WTPCount < picking.min then
    { picking with
      min := x.WTPCount
      preferredAddress :=
        sockCpyAddrPort picking.preferredAddress (SockAddress.inet x.addr cwControlPort).storage }
  else picking

/-- If the sender has not been found, its address is preferred. -/
def Picking.unlessFound (picking : Picking) (incomingAddress : SockaddrStorage) : SockaddrStorage :=
  if picking.foundIncoming then picking.preferredAddress
  else sockCpyAddrPort picking.preferredAddress incomingAddress

def pickIPv4 (info : CWACInfoValues) : SockaddrStorage :=
  match info.IPv4Addresses with
  | [] => info.preferredAddress
  | x :: rest =>
      let picking := rest.foldl (pickIPv4Step info.incomingAddress) {
        min := x.WTPCount
        foundIncoming := false
        preferredAddress :=
          sockCpyAddrPort info.preferredAddress (SockAddress.inet x.addr cwControlPort).storage }
      picking.unlessFound info.incomingAddress

/-- The sender is not looked for. -/
def pickIPv6Step (picking : Picking) (x : CWProtocolIPv6NetworkInterface) : Picking :=
  if x.WTPCount < picking.min then
    { picking with
      min := x.WTPCount
      preferredAddress :=
        sockCpyAddrPort picking.preferredAddress (SockAddress.inet6 x.addr cwControlPort).storage }
  else picking

/-- The preferred address. -/
def cwWTPPickACInterface (gNetworkPreferredFamily : CWNetworkLev3Service) (info : CWACInfoValues) :
    SockaddrStorage :=
  let info := { info with preferredAddress := { info.preferredAddress with ss_family := afUnspec } }
  match gNetworkPreferredFamily, info.IPv6Addresses with
  | .CW_IPv6, x :: rest =>
      (rest.foldl pickIPv6Step {
        min := x.WTPCount
        foundIncoming := false
        preferredAddress :=
          sockCpyAddrPort info.preferredAddress
            (SockAddress.inet6 x.addr cwControlPort).storage }).preferredAddress
  | _, _ => pickIPv4 info

/-- The addresses of a response that came from `sender`.  The rest of the structure has not been
    assigned. -/
def receivedFrom (IPv4Addresses : List CWProtocolIPv4NetworkInterface)
    (IPv6Addresses : List CWProtocolIPv6NetworkInterface) (sender : SockAddress) : CWACInfoValues where
  IPv4Addresses := IPv4Addresses
  IPv6Addresses := IPv6Addresses
  incomingAddress := sockCpyAddrPort ⟨afUnspec, none, none, none⟩ sender.storage
  preferredAddress := ⟨afUnspec, none, none, none⟩

/-! ## What it is for -/

/-- The advertised addresses of the preferred family, with their counts. -/
def advertised (family : CWNetworkLev3Service) (IPv4Addresses : List CWProtocolIPv4NetworkInterface)
    (IPv6Addresses : List CWProtocolIPv6NetworkInterface) : List (Nat × SockAddress) :=
  match family with
  | .CW_IPv4 => IPv4Addresses.map fun x => (x.WTPCount.toNat, .inet x.addr cwControlPort)
  | .CW_IPv6 => IPv6Addresses.map fun x => (x.WTPCount.toNat, .inet6 x.addr cwControlPort)

/-- The first address with the least count if the sender is advertised, and otherwise the sender. -/
inductive Chosen (addresses : List (Nat × SockAddress)) (sender : SockAddress) : SockAddress → Prop where
  | least {count : Nat} {address : SockAddress}
      (isAdvertised : ∃ x ∈ addresses, x.2.SameHost sender)
      (first : (count, address) ∈ addresses.argmin Prod.fst) : Chosen addresses sender address
  | sender (notAdvertised : ∀ x ∈ addresses, ¬ x.2.SameHost sender) : Chosen addresses sender sender

/-- The preferred address is the chosen one, and it has a family if an address is advertised. -/
def PicksChosen (family : CWNetworkLev3Service)
    (IPv4Addresses : List CWProtocolIPv4NetworkInterface)
    (IPv6Addresses : List CWProtocolIPv6NetworkInterface) (sender : SockAddress) : Prop :=
  (∃ address, Chosen (advertised family IPv4Addresses IPv6Addresses) sender address ∧
      (cwWTPPickACInterface family (receivedFrom IPv4Addresses IPv6Addresses sender)).Holds address) ∧
    (0 < (advertised family IPv4Addresses IPv6Addresses).length →
      (cwWTPPickACInterface family (receivedFrom IPv4Addresses IPv6Addresses sender)).ss_family ≠
        afUnspec)

/-! ## What the loops do -/

section Loops

/-- The address that the count 2 and the family and the port of an interface look like, 2.0.20.126. -/
def mistakenAddr : UInt32 := 0x0200147E

/-- What is compared is not the address of the interface. -/
theorem sockCmp_memory (x : CWProtocolIPv4NetworkInterface) (storage : SockaddrStorage) :
    SockCmpAddr x.memory storage ↔
      x.WTPCount = 2 ∧ storage.ss_family = afInet ∧ storage.sin_addr = some mistakenAddr := by
  have bound := x.WTPCount.toNat_lt
  have family : ByteOrder.load (x.memory.take 2) = x.WTPCount.toNat := by
    simp only [CWProtocolIPv4NetworkInterface.memory, ByteOrder.load, ByteOrder.store,
      BigEndian.encode, List.reverse_cons, List.reverse_nil, List.nil_append, List.cons_append,
      List.take_succ_cons, List.take_zero, BigEndian.decode, List.length_cons, List.length_nil,
      UInt8.toNat_ofNat']
    omega
  have addr : (x.memory.drop 4).take 4 = [2, 0, 0x14, 0x7E] := rfl
  have mistaken : UInt32.ofNat (BigEndian.decode [2, 0, 0x14, 0x7E]) = mistakenAddr := by decide
  rw [SockCmpAddr, family, addr, mistaken]
  constructor
  · rintro ⟨count, isInet, same⟩
    refine ⟨?_, isInet, same⟩
    apply UInt16.toNat_inj.mp
    rw [count, isInet]
    rfl
  · rintro ⟨count, isInet, same⟩
    refine ⟨?_, isInet, same⟩
    rw [count, isInet]
    rfl

def leastOf (x : CWProtocolIPv4NetworkInterface) (rest : List CWProtocolIPv4NetworkInterface) :
    CWProtocolIPv4NetworkInterface :=
  rest.foldl (fun least y => if y.WTPCount < least.WTPCount then y else least) x

theorem sockCpy_sockCpy (storage : SockaddrStorage) (addr addr' : UInt32) (port port' : UInt16) :
    sockCpyAddrPort (sockCpyAddrPort storage (SockAddress.inet addr port).storage)
        (SockAddress.inet addr' port').storage =
      sockCpyAddrPort storage (SockAddress.inet addr' port').storage := rfl

theorem foldl_pickIPv4 (incoming storage : SockaddrStorage) (x : CWProtocolIPv4NetworkInterface)
    (rest : List CWProtocolIPv4NetworkInterface) (found : Bool) :
    rest.foldl (pickIPv4Step incoming) {
        min := x.WTPCount
        foundIncoming := found
        preferredAddress := sockCpyAddrPort storage (SockAddress.inet x.addr cwControlPort).storage } =
      { min := (leastOf x rest).WTPCount
        foundIncoming := found || rest.any fun y => SockCmpAddr y.memory incoming
        preferredAddress :=
          sockCpyAddrPort storage (SockAddress.inet (leastOf x rest).addr cwControlPort).storage } := by
  induction rest generalizing x found with
  | nil => simp [leastOf]
  | cons y rest inductionHypothesis =>
    rw [List.foldl_cons, pickIPv4Step]
    have least : leastOf x (y :: rest) = leastOf (if y.WTPCount < x.WTPCount then y else x) rest := rfl
    rw [least, List.any_cons]
    by_cases compares : SockCmpAddr y.memory incoming
    · by_cases less : y.WTPCount < x.WTPCount
      · simp only [compares, less, if_true, sockCpy_sockCpy, inductionHypothesis, decide_true,
          Bool.true_or, Bool.or_true]
      · simp only [compares, less, if_true, if_false, inductionHypothesis, decide_true, Bool.true_or,
          Bool.or_true]
    · by_cases less : y.WTPCount < x.WTPCount
      · simp only [compares, less, if_true, if_false, sockCpy_sockCpy, inductionHypothesis,
          decide_false, Bool.false_or]
      · simp only [compares, less, if_false, inductionHypothesis, decide_false, Bool.false_or]

/-- The loop finds the first of the least. -/
theorem argmin_leastOf (x : CWProtocolIPv4NetworkInterface)
    (rest : List CWProtocolIPv4NetworkInterface) :
    ((x :: rest).map fun y => (y.WTPCount.toNat, SockAddress.inet y.addr cwControlPort)).argmin
        Prod.fst =
      some ((leastOf x rest).WTPCount.toNat, .inet (leastOf x rest).addr cwControlPort) := by
  rw [List.argmin, List.map_cons, List.foldl_cons]
  show List.foldl _ (some (x.WTPCount.toNat, SockAddress.inet x.addr cwControlPort)) _ = _
  induction rest generalizing x with
  | nil => rfl
  | cons y rest inductionHypothesis =>
    have least : leastOf x (y :: rest) = leastOf (if y.WTPCount < x.WTPCount then y else x) rest := rfl
    rw [List.map_cons, List.foldl_cons, least, ← inductionHypothesis]
    congr 1
    by_cases less : y.WTPCount < x.WTPCount
    · have counts : y.WTPCount.toNat < x.WTPCount.toNat := less
      simp [List.argAux, less, counts]
    · have counts : ¬ y.WTPCount.toNat < x.WTPCount.toNat := less
      simp [List.argAux, less, counts]

end Loops

/-! ## When the choice is the intended one -/

/-- The sender seems to be among the addresses behind the first. -/
def Mistaken (IPv4Addresses : List CWProtocolIPv4NetworkInterface) (addr : UInt32) : Prop :=
  addr = mistakenAddr ∧ ∃ x ∈ IPv4Addresses.tail, x.WTPCount = 2

instance (IPv4Addresses : List CWProtocolIPv4NetworkInterface) (addr : UInt32) :
    Decidable (Mistaken IPv4Addresses addr) := inferInstanceAs (Decidable (_ ∧ _))

/-- IPv4 addresses are picked from, and the sender is the first of the least ones itself, or it is
    mistaken for an advertised one exactly if it is one. -/
def MeetsChoice (family : CWNetworkLev3Service)
    (IPv4Addresses : List CWProtocolIPv4NetworkInterface)
    (IPv6Addresses : List CWProtocolIPv6NetworkInterface) (sender : SockAddress) : Prop :=
  IPv4Addresses ≠ [] ∧ (family = .CW_IPv4 ∨ IPv6Addresses = []) ∧
    ∃ addr port, sender = .inet addr port ∧
      ((∃ count, (count, sender) ∈ (advertised .CW_IPv4 IPv4Addresses []).argmin Prod.fst) ∨
        (Mistaken IPv4Addresses addr ↔ family = .CW_IPv4 ∧ ∃ x ∈ IPv4Addresses, x.addr = addr))

section Choice

variable {family : CWNetworkLev3Service} {x : CWProtocolIPv4NetworkInterface}
  {rest : List CWProtocolIPv4NetworkInterface} {ys : List CWProtocolIPv6NetworkInterface}

/-- Which address is held is not ambiguous. -/
theorem holds_inet_iff (port : UInt16) (addr : UInt32) (unset : Option (BitVec 128))
    (address : SockAddress) :
    SockaddrStorage.Holds ⟨afInet, some port, some addr, unset⟩ address ↔
      address = .inet addr port := by
  cases address with
  | inet addr' port' =>
    simp only [SockaddrStorage.Holds, true_and, Option.some.injEq, SockAddress.inet.injEq]
    constructor
    · rintro ⟨rfl, rfl⟩
      exact ⟨rfl, rfl⟩
    · rintro ⟨rfl, rfl⟩
      exact ⟨rfl, rfl⟩
  | inet6 addr' port' =>
    have apart : afInet ≠ afInet6 := by decide
    apply iff_of_false
    · exact fun held => apart held.1
    · intro same
      cases same

/-- Nothing of an IPv6 address is copied but its family. -/
theorem not_holds_inet6 (port : Option UInt16) (addr : Option UInt32) (address : SockAddress) :
    ¬ SockaddrStorage.Holds ⟨afInet6, port, addr, none⟩ address := by
  have apart : afInet6 ≠ afInet := by decide
  cases address with
  | inet addr' port' => exact fun held => apart held.1
  | inet6 addr' port' =>
    intro held
    cases held.2.2

theorem not_holds_unspec (port : Option UInt16) (addr : Option UInt32) (addr6 : Option (BitVec 128))
    (address : SockAddress) : ¬ SockaddrStorage.Holds ⟨afUnspec, port, addr, addr6⟩ address := by
  have apart : afUnspec ≠ afInet := by decide
  have apart6 : afUnspec ≠ afInet6 := by decide
  cases address with
  | inet addr' port' => exact fun held => apart held.1
  | inet6 addr' port' => exact fun held => apart6 held.1

theorem picks_IPv4 (xs : List CWProtocolIPv4NetworkInterface) (sender : SockAddress)
    (picks : family = .CW_IPv4 ∨ ys = []) :
    cwWTPPickACInterface family (receivedFrom xs ys sender) = pickIPv4 (receivedFrom xs ys sender) := by
  cases picks with
  | inl isIPv4 =>
    subst isIPv4
    cases ys <;> rfl
  | inr empty =>
    subst empty
    cases family <;> rfl

theorem pickIPv4_cons (sender : SockAddress) :
    pickIPv4 (receivedFrom (x :: rest) ys sender) =
      if rest.any fun y => SockCmpAddr y.memory (receivedFrom (x :: rest) ys sender).incomingAddress then
        ⟨afInet, some cwControlPort, some (leastOf x rest).addr, none⟩
      else sockCpyAddrPort ⟨afInet, some cwControlPort, some (leastOf x rest).addr, none⟩
        (receivedFrom (x :: rest) ys sender).incomingAddress := by
  have looped := foldl_pickIPv4 (receivedFrom (x :: rest) ys sender).incomingAddress
    ⟨afUnspec, none, none, none⟩ x rest false
  rw [Bool.false_or] at looped
  exact congrArg
    (fun picking => picking.unlessFound (receivedFrom (x :: rest) ys sender).incomingAddress) looped

/-- What is preferred among IPv4 addresses. -/
theorem picks_inet (addr : UInt32) (port : UInt16) (address : SockAddress)
    (picks : family = .CW_IPv4 ∨ ys = []) :
    (cwWTPPickACInterface family (receivedFrom (x :: rest) ys (.inet addr port))).Holds address ↔
      address = if Mistaken (x :: rest) addr then .inet (leastOf x rest).addr cwControlPort
        else .inet addr port := by
  have found : (rest.any fun y => SockCmpAddr y.memory
      (receivedFrom (x :: rest) ys (.inet addr port)).incomingAddress) = true ↔
        Mistaken (x :: rest) addr := by
    simp only [List.any_eq_true, decide_eq_true_iff, sockCmp_memory, Mistaken, List.tail_cons]
    constructor
    · rintro ⟨y, member, count, _, same⟩
      exact ⟨Option.some.inj same, y, member, count⟩
    · rintro ⟨same, y, member, count⟩
      exact ⟨y, member, count, rfl, congrArg some same⟩
  rw [picks_IPv4 _ _ picks, pickIPv4_cons]
  by_cases mistaken : Mistaken (x :: rest) addr
  · rw [if_pos (found.mpr mistaken), if_pos mistaken]
    exact holds_inet_iff ..
  · rw [if_neg (mt found.mp mistaken), if_neg mistaken]
    exact holds_inet_iff ..

theorem not_picks_inet6 (addr : BitVec 128) (port : UInt16) (address : SockAddress)
    (picks : family = .CW_IPv4 ∨ ys = []) :
    ¬ (cwWTPPickACInterface family (receivedFrom (x :: rest) ys (.inet6 addr port))).Holds address := by
  have notFound : ¬ (rest.any fun y => SockCmpAddr y.memory
      (receivedFrom (x :: rest) ys (.inet6 addr port)).incomingAddress) = true := by
    simp only [List.any_eq_true, decide_eq_true_iff, sockCmp_memory]
    rintro ⟨_, _, _, isInet, _⟩
    exact absurd isInet (show afInet6 ≠ afInet by decide)
  rw [picks_IPv4 _ _ picks, pickIPv4_cons, if_neg notFound]
  exact not_holds_inet6 _ _ _

theorem not_picks_nil (sender address : SockAddress) (picks : family = .CW_IPv4 ∨ ys = []) :
    ¬ (cwWTPPickACInterface family (receivedFrom [] ys sender)).Holds address := by
  rw [picks_IPv4 _ _ picks]
  exact not_holds_unspec _ _ _ _

theorem foldl_pickIPv6 (ys : List CWProtocolIPv6NetworkInterface) (picking : Picking)
    (isInet6 : picking.preferredAddress.ss_family = afInet6)
    (unset : picking.preferredAddress.sin6_addr = none) :
    (ys.foldl pickIPv6Step picking).preferredAddress.ss_family = afInet6 ∧
      (ys.foldl pickIPv6Step picking).preferredAddress.sin6_addr = none := by
  induction ys generalizing picking with
  | nil => exact ⟨isInet6, unset⟩
  | cons y ys inductionHypothesis =>
    rw [List.foldl_cons]
    by_cases less : y.WTPCount < picking.min
    · rw [pickIPv6Step, if_pos less]
      exact inductionHypothesis _ rfl unset
    · rw [pickIPv6Step, if_neg less]
      exact inductionHypothesis picking isInet6 unset

theorem not_picks_IPv6 (xs : List CWProtocolIPv4NetworkInterface) (y : CWProtocolIPv6NetworkInterface)
    (sender address : SockAddress) :
    ¬ (cwWTPPickACInterface .CW_IPv6 (receivedFrom xs (y :: ys) sender)).Holds address := by
  obtain ⟨isInet6, unset⟩ := foldl_pickIPv6 ys {
    min := y.WTPCount
    foundIncoming := false
    preferredAddress := sockCpyAddrPort ⟨afUnspec, none, none, none⟩
      (SockAddress.inet6 y.addr cwControlPort).storage } rfl rfl
  intro held
  cases address with
  | inet addr port =>
    have family := isInet6.symm.trans held.1
    exact absurd family (by decide)
  | inet6 addr port =>
    have set := unset.symm.trans held.2.2
    cases set

/-- What is to be chosen. -/
theorem chosen_iff (addresses : List (Nat × SockAddress)) (sender address : SockAddress) :
    Chosen addresses sender address ↔
      ((∃ x ∈ addresses, x.2.SameHost sender) ∧
          ∃ count, (count, address) ∈ addresses.argmin Prod.fst) ∨
        (¬ (∃ x ∈ addresses, x.2.SameHost sender) ∧ address = sender) := by
  constructor
  · intro chosen
    cases chosen with
    | @least count _ isAdvertised first => exact .inl ⟨isAdvertised, count, first⟩
    | sender notAdvertised =>
      refine .inr ⟨?_, rfl⟩
      rintro ⟨x, member, same⟩
      exact notAdvertised x member same
  · intro either
    cases either with
    | inl least =>
      obtain ⟨isAdvertised, count, first⟩ := least
      exact .least isAdvertised first
    | inr other =>
      obtain ⟨notAdvertised, rfl⟩ := other
      exact .sender fun x member same => notAdvertised ⟨x, member, same⟩

theorem advertised_iff (x : CWProtocolIPv4NetworkInterface)
    (rest : List CWProtocolIPv4NetworkInterface) (addr : UInt32) (port : UInt16)
    (picks : family = .CW_IPv4 ∨ ys = []) :
    (∃ y ∈ advertised family (x :: rest) ys, y.2.SameHost (.inet addr port)) ↔
      family = .CW_IPv4 ∧ ∃ y ∈ x :: rest, y.addr = addr := by
  cases family with
  | CW_IPv4 => simp [advertised, SockAddress.SameHost]
  | CW_IPv6 =>
    have empty : ys = [] := by
      cases picks with
      | inl isIPv4 => cases isIPv4
      | inr empty => exact empty
    simp [advertised, empty]

/-- The address that is preferred is the chosen one. -/
theorem picksChosen_inet (addr : UInt32) (port : UInt16) (picks : family = .CW_IPv4 ∨ ys = []) :
    PicksChosen family (x :: rest) ys (.inet addr port) ↔
      Chosen (advertised family (x :: rest) ys) (.inet addr port)
        (if Mistaken (x :: rest) addr then .inet (leastOf x rest).addr cwControlPort
          else .inet addr port) := by
  constructor
  · rintro ⟨⟨address, chosen, held⟩, _⟩
    rwa [← (picks_inet addr port address picks).mp held]
  · intro chosen
    have held : (cwWTPPickACInterface family (receivedFrom (x :: rest) ys (.inet addr port))).Holds
        (if Mistaken (x :: rest) addr then .inet (leastOf x rest).addr cwControlPort
          else .inet addr port) := (picks_inet addr port _ picks).mpr rfl
    refine ⟨⟨_, chosen, held⟩, fun _ => ?_⟩
    have apart : afInet ≠ afUnspec := by decide
    split at held
    next => exact fun unspec => apart (held.1.symm.trans unspec)
    next => exact fun unspec => apart (held.1.symm.trans unspec)

end Choice

/-- When the preferred address is the intended one. -/
theorem pickACInterface_picks_iff (family : CWNetworkLev3Service)
    (IPv4Addresses : List CWProtocolIPv4NetworkInterface)
    (IPv6Addresses : List CWProtocolIPv6NetworkInterface) (sender : SockAddress) :
    PicksChosen family IPv4Addresses IPv6Addresses sender ↔
      MeetsChoice family IPv4Addresses IPv6Addresses sender := by
  by_cases picks : family = .CW_IPv4 ∨ IPv6Addresses = []
  case neg =>
    -- an IPv6 address has been picked, of which only the family is copied
    have notMet : ¬ MeetsChoice family IPv4Addresses IPv6Addresses sender := fun met => picks met.2.1
    apply iff_of_false ?_ notMet
    rintro ⟨⟨address, _, held⟩, _⟩
    rw [not_or] at picks
    cases family with
    | CW_IPv4 => exact picks.1 rfl
    | CW_IPv6 =>
      cases IPv6Addresses with
      | nil => exact picks.2 rfl
      | cons y ys => exact not_picks_IPv6 IPv4Addresses y sender address held
  case pos =>
    cases IPv4Addresses with
    | nil =>
      apply iff_of_false
      · rintro ⟨⟨address, _, held⟩, _⟩
        exact not_picks_nil sender address picks held
      · exact fun met => met.1 rfl
    | cons x rest =>
      cases sender with
      | inet6 addr port =>
        apply iff_of_false
        · rintro ⟨⟨address, _, held⟩, _⟩
          exact not_picks_inet6 addr port address picks held
        · rintro ⟨_, _, addr', port', same, _⟩
          cases same
      | inet addr port =>
        rw [picksChosen_inet addr port picks, chosen_iff, advertised_iff x rest addr port picks]
        have least := argmin_leastOf x rest
        have met : MeetsChoice family (x :: rest) IPv6Addresses (.inet addr port) ↔
            (∃ count, (count, SockAddress.inet addr port) ∈
                (advertised .CW_IPv4 (x :: rest) []).argmin Prod.fst) ∨
              (Mistaken (x :: rest) addr ↔ family = .CW_IPv4 ∧ ∃ x' ∈ x :: rest, x'.addr = addr) := by
          constructor
          · rintro ⟨_, _, addr', port', same, either⟩
            cases same
            exact either
          · exact fun either => ⟨List.cons_ne_nil x rest, picks, addr, port, rfl, either⟩
        rw [met]
        have leastSender : (∃ count, (count, SockAddress.inet addr port) ∈
            (advertised .CW_IPv4 (x :: rest) []).argmin Prod.fst) ↔
              SockAddress.inet (leastOf x rest).addr cwControlPort = .inet addr port := by
          rw [advertised, least]
          simp
        by_cases mistaken : Mistaken (x :: rest) addr
        · by_cases member : family = .CW_IPv4 ∧ ∃ x' ∈ x :: rest, x'.addr = addr
          · -- the first of the least ones is preferred, as it should be
            rw [if_pos mistaken]
            apply iff_of_true
            · refine .inl ⟨member, (leastOf x rest).WTPCount.toNat, ?_⟩
              rw [member.1, advertised, least]
              rfl
            · exact .inr (iff_of_true mistaken member)
          · rw [if_pos mistaken, leastSender]
            constructor
            · rintro (isMember | ⟨_, same⟩)
              · exact absurd isMember.1 member
              · exact .inl same
            · rintro (same | agree)
              · exact .inr ⟨member, same⟩
              · exact absurd (agree.mp mistaken) member
        · by_cases member : family = .CW_IPv4 ∧ ∃ x' ∈ x :: rest, x'.addr = addr
          · have same : advertised family (x :: rest) IPv6Addresses =
                advertised .CW_IPv4 (x :: rest) [] := by
              rw [member.1]
              rfl
            rw [if_neg mistaken, same]
            constructor
            · rintro (⟨_, first⟩ | ⟨other, _⟩)
              · exact .inl first
              · exact absurd member other
            · rintro (first | agree)
              · exact .inl ⟨member, first⟩
              · exact absurd (agree.mpr member) mistaken
          · rw [if_neg mistaken]
            exact iff_of_true (.inr ⟨member, rfl⟩) (.inr (iff_of_false mistaken member))

/-- The sender is the first of two advertised addresses and the second one is less used. -/
theorem firstSender_not_picks :
    ¬ PicksChosen .CW_IPv4 [⟨3, 0x0A000001⟩, ⟨1, 0x0A000002⟩] [] (.inet 0x0A000001 5246) := by
  rw [picksChosen_inet _ _ (.inl rfl), if_neg (by decide), chosen_iff]
  have least := argmin_leastOf ⟨3, 0x0A000001⟩ [⟨1, 0x0A000002⟩]
  rintro (⟨_, count, first⟩ | ⟨notAdvertised, _⟩)
  · rw [advertised, least] at first
    cases first
  · exact notAdvertised ⟨(3, .inet 0x0A000001 cwControlPort), List.mem_cons_self, rfl⟩

end WlanController.WTP

import Rescan.Proofs.Topology.Following
import Rescan.Proofs.Url.Hosts

/-! # Endpoints of services

A service whose name and namespace are labels has the endpoint that its address names. The
endpoint tells the name, the namespace and the port, so that no such service is withdrawn with
another one.
-/

namespace Rescan.Topology

open Rescan.Url (IsPlainName)
open Rescan.Url.Domain (IsDnsLabel)

namespace Service

/-- The host name of a service. -/
def hostName (name ns : String) : String := name ++ "." ++ ns ++ ".svc"

/-- The URL of a service in the web. -/
def webUrl (name ns : String) (port : Nat) : Url where
  scheme := "http"
  host := some (.name (hostName name ns))
  port := if port = 80 then none else some (UInt16.ofNat port)
  path := .segments [""]

theorem toList_hostName (name ns : String) :
    (hostName name ns).toList = name.toList ++ '.' :: (ns.toList ++ '.' :: ['s', 'v', 'c']) := by
  have hdot : ".".toList = ['.'] := rfl
  have hsuffix : ".svc".toList = ['.', 's', 'v', 'c'] := rfl
  simp [hostName, hdot, hsuffix]

theorem render_webUrl_path {name ns : String} {port : Nat} (hport : port ≤ 0xFFFF)
    (path : Url.Path) :
    ({ webUrl name ns port with path } : Url).render =
      "http://" ++ name ++ "." ++ ns ++ ".svc" ++
        (if port = 80 then "" else ":" ++ Text.decimal port) ++ path.render := by
  have hword : (UInt16.ofNat port).toNat = port := by
    rw [UInt16.toNat_ofNat', Nat.mod_eq_of_lt (by omega)]
  simp only [Url.render, Url.renderWithoutFragment, Url.authority, Url.userInfo, Url.Host.render,
    webUrl, hostName]
  have hhttp : "http://".toList = "http".toList ++ ":".toList ++ "//".toList := rfl
  apply String.toList_injective
  by_cases heighty : port = 80
  · simp [heighty, hhttp]
  · simp [heighty, hword, hhttp]

theorem render_webUrl {name ns : String} {port : Nat} (hport : port ≤ 0xFFFF) :
    (webUrl name ns port).render =
      "http://" ++ name ++ "." ++ ns ++ ".svc" ++
        (if port = 80 then "" else ":" ++ Text.decimal port) ++ "/" :=
  render_webUrl_path hport (.segments [""])

section Labels

variable {name ns : String} (hname : IsDnsLabel name) (hns : IsDnsLabel ns)

include hname hns

theorem labels_hostName :
    Url.Domain.labels (hostName name ns).toList = [name.toList, ns.toList, ['s', 'v', 'c']] := by
  rw [toList_hostName, Url.Domain.labels_append_dot hname.dot_not_mem,
    Url.Domain.labels_append_dot hns.dot_not_mem]
  rfl

theorem isPlainName_hostName : IsPlainName (hostName name ns).toList where
  nonempty := by simp [toList_hostName]
  chars := by
    rw [toList_hostName]
    intro c hc
    simp only [List.mem_append, List.mem_cons] at hc
    rcases hc with hc | rfl | hc | rfl | rfl | rfl | rfl | hc
    · exact List.mem_cons_of_mem _ (hname.chars c hc)
    · decide
    · exact List.mem_cons_of_mem _ (hns.chars c hc)
    iterate 4 decide
    · cases hc
  unmarked := by
    rw [labels_hostName hname hns]
    simp only [List.forall_mem_cons]
    exact ⟨hname.unmarked, hns.unmarked, by decide, by simp⟩
  not_number := by
    rw [Url.endsInNumber, labels_hostName hname hns]
    rfl

/-- The address of a service is read as its URL just when the port is one. -/
theorem parse_address (port : Int) :
    Url.parse (address name ns port) =
      if 0 ≤ port ∧ port ≤ 0xFFFF then .ok (webUrl name ns port.toNat)
      else .error .invalidPort := by
  have hplain := isPlainName_hostName hname hns
  have htext : (address name ns port).toList =
      'h' :: 't' :: 't' :: 'p' :: ':' :: '/' :: '/' ::
        ((hostName name ns).toList ++ ':' :: (renderInt port).toList) := by
    have hhttp : "http://".toList = ['h', 't', 't', 'p', ':', '/', '/'] := rfl
    have hdot : ".".toList = ['.'] := rfl
    have hsuffix : ".svc:".toList = ['.', 's', 'v', 'c', ':'] := rfl
    simp [address, toList_hostName, hhttp, hdot, hsuffix]
  have hdigits (n : Nat) : ∀ c ∈ Text.digits 10 n, c ∈ Url.Domain.labelChars := by
    intro c hc
    obtain ⟨d, hd, rfl⟩ := Text.exists_of_mem_digits (by decide) hc
    exact (by decide : ∀ d < 10, Text.digitChar d ∈ Url.Domain.labelChars) d hd
  cases port with
  | ofNat n =>
      have hport : (renderInt (.ofNat n)).toList = Text.digits 10 n := Text.toList_decimal n
      rw [Url.parse_http hplain (hport ▸ hdigits n) htext, hport, Url.readPort_digits]
      have hrange : 0 ≤ Int.ofNat n ∧ Int.ofNat n ≤ 0xFFFF ↔ n ≤ 0xFFFF := by
        rw [Int.ofNat_eq_natCast]
        omega
      have hpath : Url.pathAfterAuthority "http" [] = .segments [""] := rfl
      simp only [hrange]
      split
      · simp only [Except.map, Url.named, hpath, String.ofList_toList]
        rfl
      · rfl
  | negSucc n =>
      have hport : (renderInt (.negSucc n)).toList = '-' :: Text.digits 10 (n + 1) := by
        simp [renderInt]
      have hchars : ∀ c ∈ '-' :: Text.digits 10 (n + 1), c ∈ Url.Domain.labelChars :=
        List.forall_mem_cons.mpr ⟨by decide, hdigits (n + 1)⟩
      rw [Url.parse_http hplain (hport ▸ hchars) htext, hport, Url.readPort_of_not_digit _ rfl rfl,
        if_neg (by omega)]
      rfl

/-- The URL of a service tells its name, its namespace and its port. -/
theorem eq_of_webUrl_eq {otherName otherNs : String} {port otherPort : Nat}
    (hotherName : IsDnsLabel otherName) (hotherNs : IsDnsLabel otherNs) (hport : port ≤ 0xFFFF)
    (hotherPort : otherPort ≤ 0xFFFF)
    (heq : webUrl otherName otherNs otherPort = webUrl name ns port) :
    otherName = name ∧ otherNs = ns ∧ otherPort = port := by
  have hhost : hostName otherName otherNs = hostName name ns := by
    simpa [webUrl] using congrArg Url.host heq
  have hlabels := labels_hostName hotherName hotherNs
  rw [hhost, labels_hostName hname hns] at hlabels
  obtain ⟨hsameName, hrest⟩ := List.cons.inj hlabels
  obtain ⟨hsameNs, -⟩ := List.cons.inj hrest
  refine ⟨String.toList_injective hsameName.symm, String.toList_injective hsameNs.symm, ?_⟩
  have hword : (if otherPort = 80 then none else some (UInt16.ofNat otherPort)) =
      if port = 80 then none else some (UInt16.ofNat port) := congrArg Url.port heq
  -- A port that is left out is the default one, and every other port is written.
  split at hword <;> split at hword
  · omega
  · cases hword
  · cases hword
  · have hsame := congrArg UInt16.toNat (Option.some.inj hword)
    rwa [UInt16.toNat_ofNat', UInt16.toNat_ofNat', Nat.mod_eq_of_lt (by omega),
      Nat.mod_eq_of_lt (by omega)] at hsame

end Labels

/-! ## Endpoints -/

/-- A service with a name and in a namespace that are labels. -/
structure Labelled (service : Service) (name ns : String) : Prop where
  name_eq : service.metadata.name = some name
  ns_eq : service.metadata.ns = some ns
  name_label : IsDnsLabel name
  ns_label : IsDnsLabel ns

section Labelled

variable {service other : Service} {name ns otherName otherNs : String} {override : Option UInt16}
  {url : Url}

/-- The endpoint is the URL of the service with the port that applies, if that is a port. -/
theorem Labelled.endpoint?_eq_some_iff (hlabelled : service.Labelled name ns) :
    service.endpoint? override = some url ↔
      ∃ port : Nat, service.port? override = some (port : Int) ∧ port ≤ 0xFFFF ∧
        url = webUrl name ns port := by
  have hendpoint : service.endpoint? override =
      (service.port? override).bind fun port => (Url.parse (address name ns port)).toOption := by
    rw [endpoint?, hlabelled.ns_eq, hlabelled.name_eq]
    rfl
  rw [hendpoint, Option.bind_eq_some_iff]
  constructor
  · rintro ⟨port, hport, hparse⟩
    rw [parse_address hlabelled.name_label hlabelled.ns_label] at hparse
    split at hparse
    next hrange =>
      refine ⟨port.toNat, ?_, by omega, (Option.some.inj hparse).symm⟩
      rw [hport, Int.toNat_of_nonneg hrange.1]
    next => cases hparse
  · rintro ⟨port, hport, hrange, rfl⟩
    refine ⟨port, hport, ?_⟩
    rw [parse_address hlabelled.name_label hlabelled.ns_label, if_pos (by omega)]
    rfl

theorem Labelled.eq_of_endpoint? (hlabelled : service.Labelled name ns)
    (hother : other.Labelled otherName otherNs) (hurl : service.endpoint? override = some url)
    (hotherUrl : other.endpoint? override = some url) :
    otherName = name ∧ otherNs = ns ∧ other.port? override = service.port? override := by
  obtain ⟨port, hport, hrange, rfl⟩ := hlabelled.endpoint?_eq_some_iff.mp hurl
  obtain ⟨otherPort, hotherPort, hotherRange, heq⟩ := hother.endpoint?_eq_some_iff.mp hotherUrl
  obtain ⟨hname, hns, rfl⟩ := eq_of_webUrl_eq hlabelled.name_label hlabelled.ns_label
    hother.name_label hother.ns_label hrange hotherRange heq.symm
  exact ⟨hname, hns, hotherPort.trans hport.symm⟩

end Labelled

end Service

/-- Take a service whose name and namespace are labels. With a port that applies and fits into
sixteen bits it has an endpoint, written as its address with a slash at the end and without the
port 80. With no such port it has none. A service of that sort with the same endpoint has the same
name, the same namespace and the same port that applies. So no target is removed with the service
that another such service registers. -/
theorem labelled_endpoint_tells_service (rules : Rules) (service : Service) (name ns : String)
    (hlabelled : service.Labelled name ns) :
    (∀ port : Nat, service.port? rules.port = some (port : Int) → port ≤ 0xFFFF →
      ∃ url, service.endpoint? rules.port = some url ∧
        url.render = "http://" ++ name ++ "." ++ ns ++ ".svc" ++
          (if port = 80 then "" else ":" ++ Text.decimal port) ++ "/") ∧
    ((∀ port, service.port? rules.port = some port → port < 0 ∨ 0xFFFF < port) →
      service.endpoint? rules.port = none) ∧
    ∀ (other : Service) (otherName otherNs : String), other.Labelled otherName otherNs →
      (∀ url, service.endpoint? rules.port = some url → other.endpoint? rules.port = some url →
        otherName = name ∧ otherNs = ns ∧ other.port? rules.port = service.port? rules.port) ∧
      (¬(otherName = name ∧ otherNs = ns ∧ other.port? rules.port = service.port? rules.port) →
        ∀ (follower : Follower) (scope : String) (target : Target),
          follower.registry.lookup scope = some target →
          rules.Registers other scope target.endpoint →
          (follower.follow rules (.deleted service)).registry.lookup scope = some target) := by
  refine ⟨?_, ?_, ?_⟩
  · intro port hport hrange
    exact ⟨_, hlabelled.endpoint?_eq_some_iff.mpr ⟨port, hport, hrange, rfl⟩,
      Service.render_webUrl hrange⟩
  · intro hnone
    rw [Option.eq_none_iff_forall_ne_some]
    intro url hurl
    obtain ⟨port, hport, hrange, -⟩ := hlabelled.endpoint?_eq_some_iff.mp hurl
    have := hnone _ hport
    omega
  · intro other otherName otherNs hother
    refine ⟨fun url => hlabelled.eq_of_endpoint? hother, ?_⟩
    intro hdifferent follower scope target hlookup hregisters
    rw [Follower.lookup_follow_deleted]
    refine ⟨hlookup, fun hown => hdifferent ?_⟩
    exact hlabelled.eq_of_endpoint? hother hown.1 hregisters.1

/-- One port for all services, and a namespace that also serves the scope of the cluster. -/
def onePort : Rules where
  port := some 8080
  clusterScope := some "ns-a"

/-- A follower of two services in that namespace; the later one has the targets. -/
def succeeded : Follower :=
  Follower.run onePort ⟨{}, .empty⟩ [.applied (scanner "0x1f"), .applied (scanner "scan-2")]

theorem scanner_labelled {name : String} (hlabel : IsDnsLabel name) :
    (scanner name).Labelled name "ns-a" :=
  ⟨rfl, rfl, hlabel, by decide⟩

/-- The first of the services goes, and the scope of the cluster stays with the second one. -/
theorem labelled_endpoint_tells_service_succeeded :
    (∃ url, (scanner "0x1f").endpoint? (some 8080) = some url ∧
      url.render = "http://0x1f.ns-a.svc:8080/") ∧
    ∃ target, (succeeded.follow onePort (.deleted (scanner "0x1f"))).registry.lookup "" =
        some target ∧
      target.endpoint = Service.webUrl "scan-2" "ns-a" 8080 := by
  have hfirst : (scanner "0x1f").Labelled "0x1f" "ns-a" := scanner_labelled (by decide)
  have hsecond : (scanner "scan-2").Labelled "scan-2" "ns-a" := scanner_labelled (by decide)
  obtain ⟨hwritten, -, hothers⟩ :=
    labelled_endpoint_tells_service onePort (scanner "0x1f") "0x1f" "ns-a" hfirst
  obtain ⟨-, hkept⟩ := hothers (scanner "scan-2") "scan-2" "ns-a" hsecond
  obtain ⟨url, hurl, hrender⟩ := hwritten 8080 rfl (by decide)
  refine ⟨⟨url, hurl, hrender.trans (by decide +kernel)⟩,
    ⟨Service.webUrl "scan-2" "ns-a" 8080, none⟩, ?_, rfl⟩
  refine hkept (by decide) succeeded "" _ (by decide +kernel) ⟨?_, Or.inr ⟨rfl, "ns-a", rfl, rfl⟩⟩
  exact hsecond.endpoint?_eq_some_iff.mpr ⟨8080, rfl, by decide, rfl⟩

end Rescan.Topology

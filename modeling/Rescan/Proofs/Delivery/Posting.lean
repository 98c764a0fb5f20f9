import Rescan.Proofs.Delivery.Origin
import Rescan.Proofs.Topology.Endpoints
import Rescan.Proofs.Url.Paths

/-! # Requests to services of the cluster

A request to the target that a service registers is posted to the address of the service, with the
scan path behind it as it is written.
-/

namespace Rescan

open Rescan.Resource (WatchEvent)
open Rescan.Topology (Follower Rules Service Target)

namespace Delivery

section Post

variable {courier : Courier} {target : Target} {request : Request} {url : Url}

/-- A request can be posted if the token can stand in a header and the URL can be sent to. -/
theorem Courier.exists_post_eq_ok (request : Request) (hurl : courier.urlFor target = .ok url)
    (htoken : (courier.tokenFor target).all isHeaderText = true)
    (hsendable : isSendable url = true) :
    ∃ post, courier.post target request = .ok post := by
  simp only [Courier.post, hurl, htoken, hsendable, bind, Except.bind, Bool.not_true,
    Bool.false_eq_true, if_false]
  exact ⟨_, rfl⟩

/-- A post that is not refused is sent, and no other one. -/
theorem Courier.deliver_fst {transport : Transport} {post : Post}
    (hpost : courier.post target request = .ok post) (hreply : transport post ≠ .refused) :
    (courier.deliver transport target request).1 = [post] := by
  rw [deliver, hpost]
  exact if_neg hreply

end Post

end Delivery

namespace Topology.Service

open Rescan.Url.Domain (IsDnsLabel)

/-- The URL of a service can be sent to, whatever its path is. -/
theorem isSendable_webUrl {name ns : String} (hname : IsDnsLabel name) (hns : IsDnsLabel ns)
    (port : Nat) (path : Url.Path) :
    Delivery.isSendable { webUrl name ns port with path } = true := by
  have hchars :
      (hostName name ns).toList.all (fun c => !Delivery.unsendable.contains c) = true := by
    rw [List.all_eq_true]
    intro c hc
    exact Url.Domain.of_mem_nameChars (p := fun c => !Delivery.unsendable.contains c) (by decide)
      ((isPlainName_hostName hname hns).chars c hc)
  have hscheme : (webUrl name ns port).scheme = "http" := rfl
  simp only [Delivery.isSendable, webUrl, hchars]
  rfl

end Topology.Service

namespace Delivery.Courier

/-- Take a service whose name and namespace are labels, with a port that applies, and a scan path
of plain segments. Once the service is announced its namespace has a target, and so has the scope
of the cluster if this namespace is the chosen one. The URL that a request to the target is posted
to is written as the address of the service, without the port 80, with the scan path behind it.
Whatever is posted goes there, and one post is sent for a request unless the token cannot stand in
a header or no connection is made. -/
theorem posts_to_address_with_path (rules : Rules) (courier : Courier) (service : Service)
    (name ns : String) (hlabelled : service.Labelled name ns) (port : Nat)
    (hport : service.port? rules.port = some (port : Int)) (hrange : port ≤ 0xFFFF)
    (hpath : Url.IsPlainPath courier.scanPath) (follower : Follower) (event : WatchEvent Service)
    (hevent : event.announced? = some service) (scope : String)
    (hscope : scope = ns ∨ scope = "" ∧ rules.clusterScope = some ns) :
    ∃ target url, (follower.follow rules event).registry.lookup scope = some target ∧
      courier.urlFor target = .ok url ∧
      url.render = "http://" ++ name ++ "." ++ ns ++ ".svc" ++
        (if port = 80 then "" else ":" ++ Text.decimal port) ++ courier.scanPath ∧
      ∀ transport request,
        (∀ post ∈ (courier.deliver transport target request).1, post.url = url) ∧
        ((courier.tokenFor target).all isHeaderText = true →
          (∀ post, transport post ≠ .refused) →
          ∃ post, (courier.deliver transport target request).1 = [post]) := by
  let path : Url.Path :=
    .segments ((Url.pathSegments courier.scanPath).map String.ofList)
  let target : Target := ⟨Service.webUrl name ns port, rules.token⟩
  have hregisters : rules.Registers service scope target.endpoint := by
    refine ⟨hlabelled.endpoint?_eq_some_iff.mpr ⟨port, hport, hrange, rfl⟩, ?_⟩
    rcases hscope with rfl | ⟨rfl, hcluster⟩
    · exact Or.inl hlabelled.ns_eq
    · exact Or.inr ⟨rfl, ns, hcluster, hlabelled.ns_eq⟩
  have hjoin : target.endpoint.join courier.scanPath =
      .ok { Service.webUrl name ns port with path } :=
    hpath.join_eq (show "http" ≠ "file" by decide) rfl
  have hurl : courier.urlFor target = .ok { Service.webUrl name ns port with path } := by
    rw [urlFor, hjoin]
  refine ⟨target, _, (Follower.lookup_follow_announced hevent).mpr (Or.inl ⟨hregisters, rfl⟩), hurl,
    ?_, fun transport request => ⟨fun post hmem => ?_, fun htoken hreply => ?_⟩⟩
  · rw [Service.render_webUrl_path hrange, hpath.render_segments]
  · obtain ⟨-, url, hmade, hbare⟩ := of_post_eq_ok (post_of_mem_deliver hmem)
    rw [hbare, ← Except.ok.inj (hurl.symm.trans hmade)]
    rfl
  · obtain ⟨post, hpost⟩ := exists_post_eq_ok request hurl htoken
      (Service.isSendable_webUrl hlabelled.name_label hlabelled.ns_label port path)
    exact ⟨post, deliver_fst hpost (hreply post)⟩

/-- A courier with segments of dots and marks, and an empty one at the end of its scan path. -/
def dotted : Courier where
  scanPath := "/v1.0/.../~Scan_all-/"

/-- Its requests for objects outside every namespace go to the service of the chosen namespace. -/
theorem posts_to_address_with_path_dotted :
    Url.IsPlainPath dotted.scanPath ∧
    ∃ target url, (Follower.follow Topology.onePort ⟨{}, .empty⟩
        (.applied (Topology.scanner "scan-2"))).registry.lookup "" = some target ∧
      dotted.urlFor target = .ok url ∧
      url.render = "http://scan-2.ns-a.svc:8080/v1.0/.../~Scan_all-/" := by
  have hpath : Url.IsPlainPath dotted.scanPath := by decide +kernel
  obtain ⟨target, url, hlookup, hurl, hrender, -⟩ :=
    posts_to_address_with_path Topology.onePort dotted (Topology.scanner "scan-2") "scan-2" "ns-a"
      (Topology.scanner_labelled (by decide)) 8080 rfl (by decide) hpath ⟨{}, .empty⟩
      (.applied (Topology.scanner "scan-2")) rfl "" (Or.inr ⟨rfl, rfl⟩)
  exact ⟨hpath, target, url, hlookup, hurl, hrender.trans (by decide +kernel)⟩

end Delivery.Courier

end Rescan

import Rescan.Delivery.Http
import Rescan.Proofs.Settings.Check

/-! # Where requests are posted

A scan path with one slash at its beginning leads to a URL of the scheme, the host and the port of
the endpoint. With two slashes there the path names a host of its own, and requests are posted to
that host instead.
-/

namespace Rescan

namespace Url

def SameOrigin (url other : Url) : Prop :=
  url.scheme = other.scheme ∧ url.host = other.host ∧ url.port = other.port

instance (url other : Url) : Decidable (SameOrigin url other) :=
  inferInstanceAs (Decidable (_ ∧ _ ∧ _))

/-- What follows the slashes at the beginning of a text. -/
def afterSlashes (cs : List Char) : List Char :=
  match cs with
  | '/' :: '/' :: after => after
  | _ => cs.drop (cs.takeWhile isAnySlash).length

/-- The authority that a relative text begins with, if two slashes stand before it. -/
def authority? (text : String) : Option (List Char) :=
  let body := (Parts.ofChars (significant text)).body
  if (body.takeWhile isAnySlash).length < 2 then none else some (afterSlashes body)

/-! ## Texts that begin with a slash -/

theorem cutAt_cons {c first : Char} (hne : first ≠ c) (rest : List Char) :
    ∃ more, (cutAt c (first :: rest)).1 = first :: more := by
  unfold cutAt
  split
  · exact ⟨rest, rfl⟩
  · exact ⟨rest.takeWhile (· != c), by simp [hne]⟩

theorem significant_rooted {text : String} (hroot : text.toList.head? = some '/') :
    ∃ rest, significant text = '/' :: rest := by
  obtain ⟨rest, htext⟩ := List.head?_eq_some_iff.mp hroot
  -- From the other side the trimming ends at the slash at the latest.
  have hedge : ∀ list : List Char,
      ((list ++ ['/']).dropWhile fun c => decide (c.toNat ≤ 0x20)) =
        (list.dropWhile fun c => decide (c.toNat ≤ 0x20)) ++ ['/'] := by
    intro list
    rw [List.dropWhile_append]
    split
    next hempty => rw [List.isEmpty_iff.mp hempty]; rfl
    · rfl
  have hfirst : ((('/' :: rest).dropWhile fun c => decide (c.toNat ≤ 0x20))) = '/' :: rest := rfl
  simp only [significant, htext, hfirst, List.reverse_cons, hedge]
  simp

/-- The part of a rooted text that precedes the query begins with the slash. -/
theorem body_rooted {text : String} (hroot : text.toList.head? = some '/') :
    ∃ rest, (Parts.ofChars (significant text)).body = '/' :: rest := by
  obtain ⟨rest, htext⟩ := significant_rooted hroot
  obtain ⟨more, hfragment⟩ := cutAt_cons (show '/' ≠ '#' by decide) rest
  obtain ⟨body, hquery⟩ := cutAt_cons (show '/' ≠ '?' by decide) more
  refine ⟨body, ?_⟩
  simp only [Parts.ofChars, htext]
  rw [hfragment, hquery]

theorem scheme?_rooted (rest : List Char) : scheme? ('/' :: rest) = none := rfl

/-! ## Joining -/

theorem scheme_of_readAuthority {scheme : String} {cs : List Char} {url : Url}
    (h : readAuthority scheme cs = .ok url) : url.scheme = scheme := by
  simp only [readAuthority, bind, Except.bind, pure, Except.pure] at h
  repeat' split at h
  all_goals cases h <;> rfl

section Join

variable {base : Url} {text : String} (hfile : base.scheme ≠ "file")
  (hroot : text.toList.head? = some '/')

include hfile hroot

/-- A rooted text is read relative to the base. -/
theorem exists_readRelative_of_join {url : Url} (hjoin : base.join text = .ok url) :
    ∃ rest query relative, (Parts.ofChars (significant text)).body = '/' :: rest ∧
      readRelative base ('/' :: rest) query = .ok relative ∧ url.SameOrigin relative := by
  obtain ⟨rest, hbody⟩ := body_rooted hroot
  simp only [join, read, hbody, scheme?_rooted, readWithoutScheme, bind, Except.bind, pure,
    Except.pure] at hjoin
  cases hpath : base.path with
  | whole path => simp [hpath] at hjoin
  | segments list =>
      simp only [hpath, beq_iff_eq, hfile, if_false] at hjoin
      split at hjoin
      · cases hjoin
      next relative hrelative =>
        cases hjoin
        exact ⟨rest, _, relative, hbody, hrelative, rfl, rfl, rfl⟩

/-- Without an authority of its own a rooted text only replaces the path and what follows it. -/
theorem join_of_authority?_eq_none (hnone : authority? text = none) {url : Url}
    (hjoin : base.join text = .ok url) : url.SameOrigin base := by
  obtain ⟨rest, query, relative, hbody, hrelative, horigin⟩ :=
    exists_readRelative_of_join hfile hroot hjoin
  by_cases hslashes : (('/' :: rest).takeWhile isAnySlash).length < 2
  · simp only [readRelative, if_pos hslashes] at hrelative
    cases hrelative
    exact horigin
  · simp [authority?, hbody, hslashes] at hnone

/-- A rooted text with an authority leads to the host that the authority names. -/
theorem join_of_authority?_eq_some {authority : List Char}
    (hsome : authority? text = some authority) {url : Url} (hjoin : base.join text = .ok url) :
    ∃ named, readAuthority base.scheme authority = .ok named ∧ url.SameOrigin named := by
  obtain ⟨rest, query, relative, hbody, hrelative, horigin⟩ :=
    exists_readRelative_of_join hfile hroot hjoin
  by_cases hslashes : (('/' :: rest).takeWhile isAnySlash).length < 2
  · simp [authority?, hbody, hslashes] at hsome
  · obtain rfl : afterSlashes ('/' :: rest) = authority := by
      simpa [authority?, hbody, hslashes] using hsome
    simp only [readRelative, if_neg hslashes] at hrelative
    change (readAuthority base.scheme (afterSlashes ('/' :: rest)) >>= _) = _ at hrelative
    cases hnamed : readAuthority base.scheme (afterSlashes ('/' :: rest)) with
    | error fault =>
        rw [hnamed] at hrelative
        cases hrelative
    | ok named =>
        rw [hnamed] at hrelative
        cases hrelative
        exact ⟨named, rfl, horigin⟩

end Join

end Url

namespace Delivery.Courier

open Url (SameOrigin)

/-- What a post is made of. -/
theorem of_post_eq_ok {courier : Courier} {target : Topology.Target} {request : Request}
    {post : Post} (hpost : courier.post target request = .ok post) :
    post.token = courier.tokenFor target ∧ ∃ url, courier.urlFor target = .ok url ∧
      post.url = { url with username := "", password := "" } := by
  unfold Courier.post at hpost
  obtain ⟨url, hurl, hrest⟩ := exists_of_bind_eq_ok hpost
  dsimp only at hrest
  split at hrest
  · cases hrest
  · split at hrest
    · cases hrest
    · cases hrest
      exact ⟨rfl, url, hurl, rfl⟩

theorem post_of_mem_deliver {courier : Courier} {transport : Transport}
    {target : Topology.Target} {request : Request} {post : Post}
    (hpost : post ∈ (courier.deliver transport target request).1) :
    courier.post target request = .ok post := by
  unfold deliver at hpost
  split at hpost
  · cases hpost
  next made hmade =>
    dsimp only at hpost
    split at hpost
    · cases hpost
    · rw [hmade, List.mem_singleton.mp hpost]

theorem join_of_urlFor_eq_ok {courier : Courier} {target : Topology.Target} {url : Url}
    (hurl : courier.urlFor target = .ok url) :
    target.endpoint.join courier.scanPath = .ok url := by
  unfold urlFor at hurl
  split at hurl
  next joined hjoin => rw [hjoin, ← Except.ok.inj hurl]
  · cases hurl

/-- Take settings that pass the check and a target in the web. What is posted to it carries the
token for the target and goes to the origin of the URL made for the target. That is the origin of
the endpoint just when the scan path begins with no authority, or with one that names the host and
the port of the endpoint. -/
theorem posts_to_endpoint_iff (settings : Settings) (hcheck : settings.check = .ok ())
    (target : Topology.Target)
    (hweb : target.endpoint.scheme = "http" ∨ target.endpoint.scheme = "https") (url : Url)
    (hurl : (ofSettings settings.dispatch).urlFor target = .ok url) :
    (∀ transport request,
      ∀ post ∈ ((ofSettings settings.dispatch).deliver transport target request).1,
        post.token = (target.token <|> settings.dispatch.token) ∧ post.url.SameOrigin url) ∧
    (url.SameOrigin target.endpoint ↔
      ∀ authority, Url.authority? settings.dispatch.scanPath = some authority →
        ∃ named, Url.readAuthority target.endpoint.scheme authority = .ok named ∧
          named.host = target.endpoint.host ∧ named.port = target.endpoint.port) := by
  have hfile : target.endpoint.scheme ≠ "file" := by rcases hweb with h | h <;> simp [h]
  obtain ⟨-, hroot⟩ := Settings.Dispatch.of_check_eq_ok (Settings.of_check_eq_ok hcheck).2.1
  refine ⟨fun transport request post hpost => ?_, ?_⟩
  · obtain ⟨htoken, made, hmade, hbare⟩ := of_post_eq_ok (post_of_mem_deliver hpost)
    obtain rfl : url = made := Except.ok.inj (hurl.symm.trans hmade)
    exact ⟨htoken, by rw [hbare]; exact ⟨rfl, rfl, rfl⟩⟩
  · have hjoin := join_of_urlFor_eq_ok hurl
    cases hauthority : Url.authority? settings.dispatch.scanPath with
    | none =>
        have horigin := Url.join_of_authority?_eq_none hfile hroot hauthority hjoin
        exact ⟨fun _ _ hnone => (by cases hnone), fun _ => horigin⟩
    | some authority =>
        obtain ⟨named, hnamed, hscheme, hhost, hport⟩ :=
          Url.join_of_authority?_eq_some hfile hroot hauthority hjoin
        constructor
        · rintro ⟨-, hhost', hport'⟩ other hother
          cases hother
          exact ⟨named, hnamed, hhost.symm.trans hhost', hport.symm.trans hport'⟩
        · intro hall
          obtain ⟨other, hother, hhost', hport'⟩ := hall authority rfl
          cases hnamed.symm.trans hother
          exact ⟨hscheme.trans (Url.scheme_of_readAuthority hnamed), hhost.trans hhost',
            hport.trans hport'⟩

deriving instance DecidableEq for Except

/-- A scan service in a namespace. -/
def scanService : Topology.Target where
  endpoint := {
    scheme := "http"
    host := some (.name "scan.ns-a.svc")
    port := some 8080
    path := .segments [""] }

/-- Requests along the default scan path go to the scan service. -/
theorem posts_to_endpoint_iff_default :
    ∃ url, (ofSettings {}).urlFor scanService = .ok url ∧ url.SameOrigin scanService.endpoint := by
  have hurl : (ofSettings {}).urlFor scanService = .ok { scanService.endpoint with
      path := .segments ["Scan", "ScheduleKubernetesResourceScan"] } := by
    decide +kernel
  have hnone : Url.authority? (Settings.dispatch {}).scanPath = none := by decide +kernel
  obtain ⟨-, hiff⟩ := posts_to_endpoint_iff {} (by decide) scanService (.inl rfl) _ hurl
  exact ⟨_, hurl, hiff.mpr fun _ hsome => (by cases hnone.symm.trans hsome)⟩

/-- Settings with a scan path that begins with an authority. -/
def astray : Settings where
  dispatch := { scanPath := "//evil.example/x", token := some "t" }

/-- They pass the check, and the request goes with the token to a host that is not the scan
service. -/
theorem posts_to_other_host :
    astray.check = .ok () ∧
    ∃ url, (ofSettings astray.dispatch).urlFor scanService = .ok url ∧
      ¬ url.SameOrigin scanService.endpoint ∧
      ((ofSettings astray.dispatch).deliver (fun _ => .answered 200 none) scanService
        (.ofKey ⟨"pod", "ns-a", "web-0"⟩ .none)).1.map (fun post => (post.url, post.token)) =
          [(url, some "t")] := by
  have hurl : (ofSettings astray.dispatch).urlFor scanService = .ok {
      scheme := "http", host := some (.name "evil.example"), path := .segments ["x"] } := by
    decide +kernel
  exact ⟨by decide, _, hurl, by decide, by decide +kernel⟩

end Delivery.Courier

end Rescan

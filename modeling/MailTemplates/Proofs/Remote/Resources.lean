import MailTemplates.Proofs.Remote.References
/-!
# Which resource a template is

The id of a template is put into a path as it is, and the path is read from the base URL like any
other one. So the id is one segment of the URL exactly if reading finds nothing else in it: no
character that ends a segment or the path, none that is left out, and no dots alone
(`Client.IsSegment`).

Ids that are segments are told apart unless there is a `%` in one of them, which may be read as what
stands for another character (`Client.below_inj`).

A URL that is joined from a base and a path is compared with the one that was meant, `Client.below`:
the base, the folder, and the names as segments. The paths of a template differ in what stands
behind the id. Behind the last segment characters are trimmed, so there it must not end in a blank
or a control character; this is the difference between `IsSegment` and `IsLastSegment`.

The equivalences for the two paths rest on one lemma (`resource_folder_iff`), which has the id and a
list of names behind it, and the question what cleaning leaves of the path.

Main statement: `Client.requests_address_template`.
-/

namespace MailTemplates.Remote

open Text (splitAt)

/-- Nothing is delivered to a URL that is not one of the web. -/
theorem deliveries_of_not_isWeb {network : Network} {request : Request}
    (h : request.url.isWeb = false) : deliveries network request = [] := by
  have hunsent : (exchange network request).2 = false := by
    unfold exchange
    dsimp only
    rw [h]
    split
    · rfl
    · split
      · rfl
      · rfl
  unfold deliveries
  rw [if_neg (by rw [hunsent]; exact Bool.false_ne_true)]

namespace Client

open Url

/-!
## The paths of a template

The paths are texts with the id in them. Here they are cut at their slashes, with the id as it is.
-/

/-- The last segment of the path of the versions of a template. -/
def versions : List Char := "versions".toList

theorem unbroken_versions : Unbroken versions := by decide

/-- The path of a template is its id behind the folder. -/
theorem toList_templatePath (id : String) :
    (templatePath id).toList = folder ++ '/' :: id.toList := by
  have hfront : "templates/".toList = folder ++ ['/'] := by decide
  rw [templatePath, String.toList_append, hfront, List.append_assoc, List.singleton_append]

/-- The path of its versions is a further segment behind. -/
theorem toList_versionsPath (id : String) :
    (versionsPath id).toList = folder ++ '/' :: (id.toList ++ '/' :: versions) := by
  have hback : "/versions".toList = '/' :: versions := by decide
  have hpath : versionsPath id = templatePath id ++ "/versions" := rfl
  rw [hpath, String.toList_append, toList_templatePath, hback, List.append_assoc, List.cons_append]

/-- Only the end of such a path is trimmed. -/
theorem clean_of_folder {s : String} {cs : List Char} (h : s.toList = folder ++ '/' :: cs) :
    clean s = folder ++ '/' :: (trimEnd cs).filter isInner := by
  have hfirst : (folder ++ '/' :: cs).dropWhile isOuter = folder ++ '/' :: cs :=
    List.dropWhile_cons_of_neg (by decide)
  have hfolder : folder.filter isInner = folder := by decide
  rw [clean_eq, h, hfirst, trimEnd_append_cons (by decide), List.filter_append, hfolder,
    List.filter_cons_of_pos (by decide)]

/-- What is left of the id at the end of a path. -/
theorem clean_templatePath (id : String) :
    clean (templatePath id) = folder ++ '/' :: (trimEnd id.toList).filter isInner :=
  clean_of_folder (toList_templatePath id)

/-- What is left of the id in the middle of a path. -/
theorem clean_versionsPath (id : String) :
    clean (versionsPath id) = folder ++ '/' :: (id.toList.filter isInner ++ '/' :: versions) := by
  have hversions : trimEnd versions = versions ∧ versions.filter isInner = versions := by decide
  rw [clean_of_folder (toList_versionsPath id), trimEnd_append_cons (by decide), hversions.1,
    List.filter_append, List.filter_cons_of_pos (by decide), hversions.2]

/-- The folder is the first segment. -/
theorem splitAt_folder (cs : List Char) :
    splitAt '/' (slashed true (folder ++ '/' :: cs)) =
      folder :: splitAt '/' (slashed true cs) := by
  have hmap : slashed true (folder ++ '/' :: cs) = folder ++ '/' :: slashed true cs := by
    unfold slashed
    rw [List.map_append]
    rfl
  rw [hmap, Text.splitAt_append_cons, ← slashed_of_unbroken unbroken_folder,
    splitAt_of_unbroken unbroken_folder, List.singleton_append]
  rfl

/-- And the versions are the last one. -/
theorem splitAt_versions (cs : List Char) :
    splitAt '/' (slashed true (cs ++ '/' :: versions)) =
      splitAt '/' (slashed true cs) ++ [versions] := by
  have hmap : slashed true (cs ++ '/' :: versions) =
      slashed true cs ++ '/' :: slashed true versions := by
    unfold slashed
    rw [List.map_append]
    rfl
  rw [hmap, Text.splitAt_append_cons, splitAt_of_unbroken unbroken_versions]

/-!
## Ids that are segments

The two conditions on an id are decidable, so that it can be told for a given id whether its
requests have the URLs that are meant.
-/

/-- Whether reading a URL finds one segment in an id, and all of it. -/
structure IsSegment (id : String) : Prop where
  /-- Nothing in it ends a segment. -/
  unbroken : Unbroken id.toList
  /-- Nothing in it ends the path. -/
  noMark : '#' ∉ id.toList ∧ '?' ∉ id.toList
  /-- It has no tabs or line breaks, which are left out. -/
  inner : ∀ c ∈ id.toList, isInner c = true
  /-- It is not made of dots. -/
  named : IsNamed id.toList

/-- Whether the same is so at the end of a path. -/
structure IsLastSegment (id : String) : Prop extends IsSegment id where
  /-- It does not end with a space or a control character, which are left out there. -/
  edge : id.toList.getLast?.any isOuter = false

instance (id : String) : Decidable (IsSegment id) :=
  decidable_of_iff (Unbroken id.toList ∧ ('#' ∉ id.toList ∧ '?' ∉ id.toList) ∧
      id.toList.all isInner = true ∧ IsNamed id.toList)
    ⟨fun ⟨unbroken, noMark, inner, named⟩ => ⟨unbroken, noMark, List.all_eq_true.1 inner, named⟩,
      fun h => ⟨h.unbroken, h.noMark, List.all_eq_true.2 h.inner, h.named⟩⟩

instance (id : String) : Decidable (IsLastSegment id) :=
  decidable_of_iff (IsSegment id ∧ id.toList.getLast?.any isOuter = false)
    ⟨fun ⟨segment, edge⟩ => ⟨segment, edge⟩, fun h => ⟨h.toIsSegment, h.edge⟩⟩

/-- The URL of names behind the base URL, each of them as one segment. -/
def below (client : Client) (names : List String) : Url :=
  client.base.below (names.map String.toList)

/-- The base URL is read with a slash at its end. -/
theorem parse_of_ofUrl {client : Client} {key address : String}
    (hclient : ofUrl key address = .ok client) :
    ∃ s, parse s = .ok client.base ∧ EndsInSlash s.toList ∧
      ∀ c ∈ s.toList, c ∈ address.toList ∨ c = '/' := by
  unfold ofUrl at hclient
  dsimp only at hclient
  split at hclient
  · next hbase =>
    cases hclient
    refine ⟨_, hbase, ?_⟩
    split
    · next hlast =>
      rw [beq_iff_eq, List.getLast?_eq_some_iff] at hlast
      exact ⟨hlast, fun c hc => .inl hc⟩
    · rw [String.toList_append]
      refine ⟨⟨address.toList, rfl⟩, fun c hc => ?_⟩
      rcases List.mem_append.1 hc with hc | hc
      · exact .inl hc
      · exact .inr (List.mem_singleton.1 hc)
  · nomatch hclient

section Web

variable {client : Client} {key address : String} (hclient : ofUrl key address = .ok client)
  (hweb : client.base.isWeb = true)
include hclient hweb

/-- The base of a client has segments. -/
theorem segments_of_ofUrl : ∃ items, client.base.path = .segments items := by
  obtain ⟨s, hparse, -⟩ := parse_of_ofUrl hclient
  exact segments_of_parse hparse (isSpecial_of_isWeb hweb)

/-- The whole path of the address is in front of the names, unless the slash at the end belongs to a
query or a fragment. -/
theorem path_eq_directory (haddress : '#' ∉ address.toList ∧ '?' ∉ address.toList) :
    client.base.path = .segments (client.base.directory ++ [[]]) := by
  obtain ⟨s, hparse, hslash, hmem⟩ := parse_of_ofUrl hclient
  have hmark : ∀ c, c ∉ address.toList → c ≠ '/' → c ∉ s.toList := by
    intro c hc hne hs
    exact (hmem c hs).elim hc hne
  exact segments_of_endsInSlash hparse hweb hslash
    ⟨hmark _ haddress.1 (by decide), hmark _ haddress.2 (by decide)⟩

/-- A resource has the URL that its path resolves to. -/
theorem resource_eq_iff {path : String} {url : Url} :
    client.resource path = url ↔ client.base.resolvePath path = .ok url := by
  obtain ⟨items, hitems⟩ := segments_of_ofUrl hclient hweb
  obtain ⟨found, hfound, -⟩ := resolvePath_of_segments hitems path
  have hresource : client.resource path = found := by
    unfold resource endpoint
    rw [hfound]
  rw [hresource, hfound, Except.ok.injEq]

/-- A path leads to the id behind the folder, and what follows, if the id is left as it is and is
one segment. -/
theorem resource_folder_iff {path id : String} {rest kept : List Char} {more : List (List Char)}
    (hpath : clean path = folder ++ '/' :: rest)
    (hsplit : splitAt '/' (slashed true rest) = splitAt '/' (slashed true kept) ++ more)
    (hmark : ∀ c ∈ ['#', '?'], (c ∈ rest ↔ c ∈ kept)) (hkept : kept.Sublist id.toList)
    (hnamed : ∀ s ∈ more, IsNamed s) (hmore : ∀ s ∈ more, Unbroken s) :
    client.resource path = client.base.below (folder :: id.toList :: more) ↔
      kept = id.toList ∧ Unbroken id.toList ∧ ('#' ∉ id.toList ∧ '?' ∉ id.toList) ∧
        IsNamed id.toList := by
  obtain ⟨items, hitems⟩ := segments_of_ofUrl hclient hweb
  -- The folder has none of the marks, so they are in the path only if they are in what is left of
  -- the id.
  have hmarks : ∀ c ∈ ['#', '?'], (c ∈ folder ++ '/' :: rest ↔ c ∈ kept) := by
    intro c hc
    have hfolder : c ∉ folder ∧ c ≠ '/' := by
      have heach : ∀ d ∈ ['#', '?'], d ∉ folder ∧ d ≠ '/' :=
        List.forall_mem_cons.2 ⟨by decide, List.forall_mem_singleton.2 (by decide)⟩
      exact heach c hc
    rw [List.mem_append, List.mem_cons, ← hmark c hc]
    constructor
    · rintro (h | h | h)
      · exact absurd h hfolder.1
      · exact absurd h hfolder.2
      · exact h
    · exact fun h => .inr (.inr h)
  rw [resource_eq_iff hclient hweb, resolvePath_eq_below_iff hitems hweb, hpath, splitAt_folder,
    hsplit, walkSegments_folder_iff hkept hnamed hmore, hmarks '#' (by decide),
    hmarks '?' (by decide)]
  constructor
  · rintro ⟨hhash, hquestion, heq, hunbroken, hname⟩
    exact ⟨heq, hunbroken, ⟨heq ▸ hhash, heq ▸ hquestion⟩, hname⟩
  · rintro ⟨heq, hunbroken, ⟨hhash, hquestion⟩, hname⟩
    exact ⟨heq ▸ hhash, heq ▸ hquestion, heq, hunbroken, hname⟩

/-- An id is read at the end of a path as it is if it is a segment and nothing at its end is left
out. -/
theorem resource_templatePath_iff {id : String} :
    client.resource (templatePath id) = client.below ["templates", id] ↔ IsLastSegment id := by
  have hfront := isPrefix_trimEnd id.toList
  have hkept : ((trimEnd id.toList).filter isInner).Sublist id.toList :=
    List.filter_sublist.trans hfront.sublist
  -- Two things may be left out at the end of a path, and both only make it shorter.
  have hself : (trimEnd id.toList).filter isInner = id.toList ↔
      trimEnd id.toList = id.toList ∧ ∀ c ∈ id.toList, isInner c = true := by
    constructor
    · intro h
      have hlength : id.toList.length ≤ (trimEnd id.toList).length := by
        have hle := (List.filter_sublist (p := isInner) (l := trimEnd id.toList)).length_le
        rwa [h] at hle
      have htrim := hfront.eq_of_length_le hlength
      rw [htrim] at h
      exact ⟨htrim, List.filter_eq_self.1 h⟩
    · rintro ⟨htrim, hinner⟩
      rw [htrim]
      exact List.filter_eq_self.2 hinner
  have hbelow : client.below ["templates", id] = client.base.below [folder, id.toList] := rfl
  rw [hbelow, resource_folder_iff hclient hweb (clean_templatePath id)
    (List.append_nil _).symm (fun _ _ => Iff.rfl) hkept nofun nofun, hself, trimEnd_eq_self_iff]
  constructor
  · rintro ⟨⟨hend, hinner⟩, hunbroken, hmark, hnamed⟩
    exact ⟨⟨hunbroken, hmark, hinner, hnamed⟩, hend⟩
  · rintro ⟨⟨hunbroken, hmark, hinner, hnamed⟩, hend⟩
    exact ⟨⟨hend, hinner⟩, hunbroken, hmark, hnamed⟩

/-- An id is read in the middle of a path as it is if it is a segment. -/
theorem resource_versionsPath_iff {id : String} :
    client.resource (versionsPath id) = client.below ["templates", id, "versions"] ↔
      IsSegment id := by
  have hmark : ∀ c ∈ ['#', '?'],
      (c ∈ id.toList.filter isInner ++ '/' :: versions ↔ c ∈ id.toList.filter isInner) := by
    intro c hc
    have hversions : c ∉ '/' :: versions := by
      have heach : ∀ d ∈ ['#', '?'], d ∉ '/' :: versions :=
        List.forall_mem_cons.2 ⟨by decide, List.forall_mem_singleton.2 (by decide)⟩
      exact heach c hc
    rw [List.mem_append]
    exact or_iff_left hversions
  have hnamed : ∀ s ∈ [versions], IsNamed s :=
    List.forall_mem_singleton.2 (by decide)
  have hbelow : client.below ["templates", id, "versions"] =
      client.base.below [folder, id.toList, versions] := rfl
  rw [hbelow, resource_folder_iff hclient hweb (clean_versionsPath id) (splitAt_versions _) hmark
    List.filter_sublist hnamed (List.forall_mem_singleton.2 unbroken_versions),
    List.filter_eq_self]
  constructor
  · rintro ⟨hinner, hunbroken, hmark, hnamed⟩
    exact ⟨hunbroken, hmark, hinner, hnamed⟩
  · rintro ⟨hunbroken, hmark, hinner, hnamed⟩
    exact ⟨hinner, hunbroken, hmark, hnamed⟩

/-- A version is posted once. -/
theorem snd_publish (network : Network) (t : Template) (content version : String) :
    (client.publish network t content version).2 =
      deliveries network (client.post (client.resource (versionsPath t.id))
        (versionBody t content version)) := by
  unfold publish
  rw [(endpoint_of_ofUrl hclient hweb (versionsPath t.id)).1]
  exact snd_send _

end Web

/-!
## Requests

The requests themselves are known from the module on fetching; what is added is where they lead.
-/

section Elsewhere

variable {client : Client} (hweb : client.base.isWeb = false)
include hweb

/-- An endpoint without a host is not one of the web. -/
theorem isWeb_endpoint {path : String} {url : Url} (h : client.endpoint path = .ok url) :
    url.isWeb = false := by
  have hresolve : client.base.resolvePath path = .ok url := by
    unfold endpoint at h
    split at h
    · next hurl => rw [hurl, Except.ok.inj h]
    · nomatch h
  have hscheme : url.scheme = client.base.scheme := by
    unfold resolvePath at hresolve
    split at hresolve
    · nomatch hresolve
    · cases hresolve
      rfl
  rw [isWeb_congr hscheme, hweb]

/-- Nothing is asked for under a base URL that is not one of the web. -/
theorem snd_fetch_elsewhere (network : Network) (t : Template) :
    (client.fetch network t).2 = [] := by
  unfold fetch
  split
  · rfl
  · next url hurl =>
    have hsend : (send network (client.get url) (.fetching t.id)).2 = [] :=
      (snd_send _).trans (deliveries_of_not_isWeb (isWeb_endpoint hweb hurl))
    split
    · next hresult => rwa [hresult] at hsend
    · next hresult =>
      rw [hresult] at hsend
      split
      · exact hsend
      · exact hsend

/-- A client whose endpoints are elsewhere publishes nothing. -/
theorem snd_publish_elsewhere (network : Network) (t : Template) (content version : String) :
    (client.publish network t content version).2 = [] := by
  unfold publish
  split
  · rfl
  · next url hurl =>
    exact (snd_send _).trans (deliveries_of_not_isWeb (isWeb_endpoint hweb hurl))

end Elsewhere

/-- Ids without a `%` are different segments. -/
theorem below_inj {client : Client} (front back : List String) {id other : String}
    (hid : '%' ∉ id.toList) (hother : '%' ∉ other.toList)
    (h : (client.below (front ++ id :: back)).fetched =
      (client.below (front ++ other :: back)).fetched) : id = other := by
  have hpath := UrlPath.segments.inj (congrArg Url.path h)
  rw [List.append_cancel_left_eq, List.map_append, List.map_append, List.map_append,
    List.map_append, List.append_cancel_left_eq] at hpath
  exact String.toList_injective (Percent.encode_inj hid hother (List.cons.inj hpath).1)

/-- A client sends nothing unless its base URL is one of the web. It asks for the resource of a
template with the id behind `templates/`, and posts a version of it to `/versions` below. Reading a
URL finds the id there as one segment exactly if it is one, and different such ids without a `%` are
different resources. In front of `templates/` is the whole path of an address that has neither a
query nor a fragment. -/
theorem requests_address_template {client : Client} {key address : String}
    (hclient : ofUrl key address = .ok client) (network : Network) (t : Template)
    (content version : String) :
    (client.base.isWeb = false →
      (client.fetch network t).2 = [] ∧ (client.publish network t content version).2 = []) ∧
    (client.base.isWeb = true →
      (client.fetch network t).2 =
        deliveries network (client.get (client.resource (templatePath t.id))) ∧
      (client.publish network t content version).2 =
        deliveries network (client.post (client.resource (versionsPath t.id))
          (versionBody t content version)) ∧
      (client.resource (templatePath t.id) = client.below ["templates", t.id] ↔
        IsLastSegment t.id) ∧
      (client.resource (versionsPath t.id) = client.below ["templates", t.id, "versions"] ↔
        IsSegment t.id) ∧
      (∀ other, '%' ∉ t.id.toList → '%' ∉ other.toList → t.id ≠ other →
        (client.below ["templates", t.id]).fetched ≠ (client.below ["templates", other]).fetched ∧
        (client.below ["templates", t.id, "versions"]).fetched ≠
          (client.below ["templates", other, "versions"]).fetched) ∧
      ('#' ∉ address.toList ∧ '?' ∉ address.toList →
        client.base.path = .segments (client.base.directory ++ [[]]))) := by
  constructor
  · intro hweb
    exact ⟨snd_fetch_elsewhere hweb network t, snd_publish_elsewhere hweb network t content version⟩
  · intro hweb
    refine ⟨snd_fetch hclient hweb network t, snd_publish hclient hweb network t content version,
      resource_templatePath_iff hclient hweb, resource_versionsPath_iff hclient hweb, ?_,
      path_eq_directory hclient hweb⟩
    intro other hid hother hne
    constructor
    · intro h
      exact hne (below_inj ["templates"] [] hid hother h)
    · intro h
      exact hne (below_inj ["templates"] ["versions"] hid hother h)

/-- A client of a service on the same machine. -/
def apiClient : Client := ⟨⟨"http".toList,
  some ⟨[], [], .ipv6 [0, 0, 0, 0, 0, 0, 0, 1], none⟩, .segments ["v3".toList, []],
  none, none⟩, "k"⟩

/-- A service without versions of anything. -/
def apiNetwork : Network := fun _ => some ⟨200, "OK", "\x7b\"versions\":[]\x7d"⟩

/-- A template of which only the id is of interest. -/
def named (id : String) : Template := ⟨id, "letter", "letter", none, none, []⟩

/-- A letter whose id has a blank: its requests have the segment that is meant. -/
theorem requests_address_letter :
    (apiClient.fetch apiNetwork (named "letter 1")).2.map (·.url) =
      [apiClient.below ["templates", "letter 1"]] ∧
    (apiClient.publish apiNetwork (named "letter 1") "A" "v").2.map (·.url) =
      [apiClient.below ["templates", "letter 1", "versions"]] := by
  have hclient : ofUrl "k" "http://[::1]/v3" = .ok apiClient :=
    eq_ok_of_toOption (by decide +kernel)
  obtain ⟨hfetch, hpublish, hlast, hinside, -⟩ :=
    (requests_address_template hclient apiNetwork (named "letter 1") "A" "v").2 (by decide +kernel)
  have hfetched := hlast.2 (by decide +kernel)
  have hpublished := hinside.2 (by decide +kernel)
  rw [hfetch, hpublish, hfetched, hpublished, deliveries, deliveries, if_pos (by decide +kernel),
    if_pos (by decide +kernel)]
  exact ⟨rfl, rfl⟩

/-- An id that is no segment leads elsewhere, and so does a base URL with a query. -/
theorem requests_leave_folder :
    (ofUrl "k" "http://[::1]/v3").toOption = some apiClient ∧
    (apiClient.fetch apiNetwork (named "../x")).2.map (·.url.text) = ["http://[::1]/v3/x"] ∧
    (apiClient.publish apiNetwork (named "../mail/send?") "A" "v").2.map (·.url.text) =
      ["http://[::1]/v3/mail/send?/versions"] ∧
    (apiClient.publish apiNetwork (named "a?b") "A" "v").2.map (·.url.text) =
      ["http://[::1]/v3/templates/a?b/versions"] ∧
    (apiClient.fetch apiNetwork (named "a b")).2 =
      (apiClient.fetch apiNetwork (named "a%20b")).2 ∧
    (ofUrl "k" "http://[::1]/v3?x").toOption.map (fun client =>
      (client.resource (templatePath "a")).text) = some "http://[::1]/templates/a" := by
  decide +kernel

end Client

end MailTemplates.Remote

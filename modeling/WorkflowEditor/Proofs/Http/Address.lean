import WorkflowEditor.Http.Client
import WorkflowEditor.Proofs.Http.Path
import WorkflowEditor.Proofs.Session.Identity

/-!
# WorkflowEditor.Proofs.Http.Address

To which path a request is sent.  The id of a workflow is put into the address
as it is, and the address is read again by rules of its own, so an id may end
the path, leave the collection or be read as another one.  An id that is plain
(`Id.IsPlain`) stands in the path as it is.

* `parse?_eq` — an address is read in three parts;
* `exists_target` — under one base tails are sent behind the same front;
* `plain_ids_apart` — requests about different workflows with plain ids are sent
  with different methods or to different paths;
* `ids_clash` — ids that are not plain, and the ids they are taken for.
-/

namespace WorkflowEditor

namespace Url

variable {t : List Char}

/-! ## addresses -/

/-- A text without the characters at its ends and in it that do not count. -/
def cleaned (cs : List Char) : List Char :=
  ((cs.dropWhile isEdge).reverse.dropWhile isEdge).reverse.filter fun c => !isIgnored c

/-- Where requests to an address go: whether that is secure, the host and the port. -/
abbrev Place := Bool × String × Nat

/-- The address of a target at a place. -/
def Place.at (target : List Char) (place : Place) : Url :=
  ⟨place.1, place.2.1, place.2.2, String.ofList target⟩

def isEnd (c : Char) : Bool := isSlash c || c == '?' || c == '#'

/-- Is an address with this scheme secure, if it is one? -/
def secure? (scheme : List Char) : Option Bool :=
  let name := String.ofList (scheme.map Char.toLower)
  if name = "http" then some false else if name = "https" then some true else none

/-- The place that is named in front of the path. -/
def place? (secure : Bool) (authority : List Char) : Option Place :=
  (host? (if secure then 443 else 80) (afterUser authority)).map fun x => (secure, x)

theorem map_place? (secure : Bool) (authority target : List Char) :
    (place? secure authority).map (Place.at target) = do
      let x ← host? (if secure then 443 else 80) (afterUser authority)
      return ⟨secure, x.1, x.2, String.ofList target⟩ := by
  rw [place?]
  cases host? (if secure then 443 else 80) (afterUser authority) with
  | none => rfl
  | some x => rfl

/-- What is read behind the scheme: the place up to the next slash, and the target. -/
def behindScheme? (secure : Bool) (rest : List Char) : Option Url :=
  let rest := rest.dropWhile isSlash
  (place? secure (rest.takeWhile fun c => !isEnd c)).map
    (Place.at (targetText (rest.dropWhile fun c => !isEnd c)))

/-- An address is read in three parts: the scheme, the place and the target. -/
theorem parse?_eq (text : String) : parse? text =
    let cs := cleaned text.toList
    (secure? (cs.takeWhile (· != ':'))).bind fun secure =>
      match cs.dropWhile (· != ':') with
      | [] => none
      | _ :: rest => behindScheme? secure rest := by
  simp only [parse?, cleaned]
  generalize ((text.toList.dropWhile isEdge).reverse.dropWhile isEdge).reverse.filter _ = cs
  simp only [secure?, behindScheme?, map_place?, isEnd]
  generalize String.ofList _ = name
  split
  · rfl
  · split
    · rfl
    · rfl

/-- A text in which nothing ends the path is a path. -/
theorem targetText_eq {cs : List Char} (h : ∀ c ∈ cs, c ∉ ['?', '#']) :
    targetText cs = pathText cs := by
  have hne (d : Char) (hd : d ∈ ['?', '#']) : ∀ c ∈ cs, (c != d) = true :=
    fun c hc => bne_iff_ne.mpr fun heq => h c hc (heq ▸ hd)
  have hfragment := hne '#' (by decide)
  have hquery := hne '?' (by decide)
  rw [targetText]
  simp only [List.takeWhile_eq_self_iff.mpr hfragment, List.takeWhile_eq_self_iff.mpr hquery,
    List.dropWhile_eq_nil_iff.mpr hquery]

/-- Behind an address only the characters at its start and in it are left out. -/
theorem cleaned_behind (h : Tail t) (base : List Char) :
    cleaned (base ++ '/' :: (collection ++ t)) =
      (base.dropWhile isEdge).filter (fun c => !isIgnored c) ++ '/' :: (collection ++ t) := by
  have hends : (((base.dropWhile isEdge ++ '/' :: (collection ++ t)).reverse.dropWhile
      isEdge).reverse) = base.dropWhile isEdge ++ '/' :: (collection ++ t) := by
    refine reverse_dropWhile_reverse fun c hc => ?_
    rw [← List.cons_append, ← List.append_assoc, List.getLast?_append, List.getLast?_append] at hc
    cases ht : t.getLast? with
    | some d =>
        rw [ht, Option.some_or] at hc
        exact h.ends c (ht.trans hc)
    | none =>
        rw [ht, Option.none_or] at hc
        rw [← Option.some.inj hc]
        decide
  have hkept : ('/' :: (collection ++ t)).filter (fun c => !isIgnored c) =
      '/' :: (collection ++ t) := by
    rw [List.filter_eq_self, List.forall_mem_cons, List.forall_mem_append]
    refine ⟨by decide, forall_mem_of_all (by decide), fun c hc => ?_⟩
    rw [(h.kept c hc).1]
    rfl
  rw [cleaned, dropWhile_append_stop (by decide), hends, List.filter_append, hkept]

/-- A text with a slash is no scheme. -/
theorem secure?_of_mem {scheme : List Char} (h : '/' ∈ scheme) : secure? scheme = none := by
  have hmem : '/' ∈ scheme.map Char.toLower := List.mem_map.mpr ⟨'/', h, by decide⟩
  have hne (name : String) (hname : '/' ∉ name.toList) :
      String.ofList (scheme.map Char.toLower) ≠ name := by
    rintro rfl
    rw [String.toList_ofList] at hname
    exact hname hmem
  rw [secure?]
  simp only [hne "http" (by decide), hne "https" (by decide), if_false]

/-- The target of a tail behind the collection. -/
theorem exists_targetText_behind {q : List Char} (hplain : ∀ c ∈ q, c ∉ ['?', '#'])
    (hq : ∀ c ∈ q.head?, isSlash c = true) :
    ∃ front ≠ [], (∀ c ∈ front, isPathChar c = true) ∧
      ∀ t, Tail t → targetText (q ++ '/' :: (collection ++ t)) = front ++ encode t := by
  have htarget (t : List Char) (ht : Tail t) : targetText (q ++ '/' :: (collection ++ t)) =
      pathText (q ++ '/' :: (collection ++ t)) := by
    refine targetText_eq ?_
    simp only [List.forall_mem_append, List.forall_mem_cons]
    exact ⟨hplain, by decide, forall_mem_of_all (by decide), ht.no_end⟩
  cases q with
  | nil =>
      obtain ⟨front, hne, hfront, hpath⟩ :=
        exists_pathText_behind (c := '/') (by decide) [] (.inl rfl)
      exact ⟨front, hne, hfront, fun t ht => (htarget t ht).trans (hpath t ht)⟩
  | cons d rest =>
      obtain ⟨front, hne, hfront, hpath⟩ := exists_pathText_behind (hq d rfl) (rest ++ ['/'])
        (.inr ⟨rest, '/', by decide, rfl⟩)
      refine ⟨front, hne, hfront, fun t ht => ?_⟩
      rw [htarget t ht, ← hpath t ht, List.append_assoc, List.singleton_append, List.cons_append]

/-- What is sent of a tail behind a front; only the path is never empty. -/
def sentBehind (front t : List Char) : List Char :=
  if front = [] ∧ t = [] then ['/'] else front ++ encode t

/-- What stands behind the scheme names one place, whatever the tail is. -/
theorem exists_behindScheme {rest : List Char} (hplain : ∀ c ∈ rest, c ∉ ['?', '#']) :
    ∃ authority front, (∀ c ∈ front, isPathChar c = true) ∧
      ∀ secure t, Tail t → behindScheme? secure (rest ++ '/' :: (collection ++ t)) =
        (place? secure authority).map (Place.at (sentBehind front t)) := by
  by_cases hslashes : rest.dropWhile isSlash = []
  · -- nothing but slashes: the collection is taken for the host
    refine ⟨collection, [], List.forall_mem_nil _, fun secure t ht => ?_⟩
    have hrest : (rest ++ '/' :: (collection ++ t)).dropWhile isSlash = collection ++ t := by
      rw [List.dropWhile_append, hslashes]
      rfl
    have hends : (collection ++ t).takeWhile (fun c => !isEnd c) = collection ∧
        (collection ++ t).dropWhile (fun c => !isEnd c) = t := by
      obtain rfl | ⟨cs, rfl⟩ := ht.nil_or_cons
      · exact ⟨by decide, by decide⟩
      · have hall : collection.dropWhile (fun c => !isEnd c) = [] := by decide
        rw [takeWhile_append_stop (by decide), dropWhile_append_stop (by decide), hall]
        exact ⟨by decide, rfl⟩
    have htarget : targetText t = sentBehind [] t := by
      rw [targetText_eq ht.no_end, pathText_tail ht, sentBehind]
      simp only [true_and, List.nil_append]
    simp only [behindScheme?, hrest, hends, htarget]
  · let authority := (rest.dropWhile isSlash).takeWhile fun c => !isEnd c
    let above := (rest.dropWhile isSlash).dropWhile fun c => !isEnd c
    have habove : ∀ c ∈ above, c ∉ ['?', '#'] := fun c hc =>
      hplain c (List.dropWhile_subset _ (List.dropWhile_subset _ hc))
    have hhead : ∀ c ∈ above.head?, isSlash c = true := by
      intro c hc
      have hstop := List.head?_dropWhile_not (fun c => !isEnd c) (rest.dropWhile isSlash)
      have hmem := habove c (List.mem_of_mem_head? hc)
      rw [hc] at hstop
      simp only [List.mem_cons, List.not_mem_nil, or_false, not_or] at hmem
      simpa [isEnd, hmem] using hstop
    obtain ⟨front, hne, hfront, htarget⟩ := exists_targetText_behind habove hhead
    refine ⟨authority, front, hfront, fun secure t ht => ?_⟩
    have hrest : (rest ++ '/' :: (collection ++ t)).dropWhile isSlash =
        rest.dropWhile isSlash ++ '/' :: (collection ++ t) := by
      rw [List.dropWhile_append, if_neg (by rwa [List.isEmpty_iff])]
    have hsent : sentBehind front t = front ++ encode t := if_neg fun h => hne h.1
    rw [behindScheme?, hsent, ← htarget t ht]
    simp only [hrest, takeWhile_append_stop (p := fun c => !isEnd c) (c := '/') (by decide),
      dropWhile_append_stop (p := fun c => !isEnd c) (c := '/') (by decide)]
    rfl

/-- **Below one base** all requests go to one place, and what is sent of a tail
stands behind the same front. -/
theorem exists_target {base : List Char} (hbase : ∀ c ∈ base, c ∉ ['?', '#']) :
    ∃ (place : Option Place) (front : List Char), (∀ c ∈ front, isPathChar c = true) ∧
      ∀ t, Tail t → parse? (String.ofList (base ++ '/' :: (collection ++ t))) =
        place.map (Place.at (sentBehind front t)) := by
  have hclean : ∀ c ∈ (base.dropWhile isEdge).filter (fun c => !isIgnored c), c ∉ ['?', '#'] :=
    fun c hc => hbase c (List.dropWhile_subset _ (List.mem_of_mem_filter hc))
  generalize hcleaned : (base.dropWhile isEdge).filter (fun c => !isIgnored c) = cs at hclean
  have hparse (t : List Char) (ht : Tail t) :
      cleaned (String.ofList (base ++ '/' :: (collection ++ t))).toList =
        cs ++ '/' :: (collection ++ t) := by
    rw [String.toList_ofList, cleaned_behind ht, hcleaned]
  by_cases hcolon : ':' ∈ cs
  · obtain ⟨scheme, rest, rfl, hscheme⟩ := List.eq_append_cons_of_mem hcolon
    have hbefore : ∀ c ∈ scheme, (c != ':') = true :=
      fun c hc => bne_iff_ne.mpr (ne_of_mem_of_not_mem hc hscheme)
    obtain ⟨authority, front, hfront, hrest⟩ :=
      exists_behindScheme fun c hc => hclean c (List.mem_append_right _ (.tail _ hc))
    refine ⟨(secure? scheme).bind fun secure => place? secure authority, front, hfront,
      fun t ht => ?_⟩
    rw [parse?_eq, hparse t ht, List.append_assoc, List.cons_append, Option.map_bind]
    simp only [takeWhile_append_stop (p := (· != ':')) (c := ':') (by decide),
      dropWhile_append_stop (p := (· != ':')) (c := ':') (by decide),
      List.takeWhile_eq_self_iff.mpr hbefore, List.dropWhile_eq_nil_iff.mpr hbefore,
      List.nil_append, hrest _ t ht]
    rfl
  · -- the first colon, if there is one, stands behind a slash: no scheme
    refine ⟨none, [], List.forall_mem_nil _, fun t ht => ?_⟩
    have hslash : '/' ∈ (cs ++ '/' :: (collection ++ t)).takeWhile (· != ':') := by
      rw [List.takeWhile_append_of_pos fun c hc => bne_iff_ne.mpr (ne_of_mem_of_not_mem hc hcolon)]
      exact List.mem_append_right _ (.head _)
    rw [parse?_eq, hparse t ht]
    simp only [secure?_of_mem hslash, Option.bind_none, Option.map_none]

/-! ## paths -/

/-- The path as it is sent. -/
def path (u : Url) : String := String.ofList (u.target.toList.takeWhile (· != '?'))

/-- Tails are told apart by what is sent of them; nothing is sent like a mere slash. -/
theorem sentBehind_injective {front t t' : List Char} (ht : Tail t) (ht' : Tail t')
    (hslash : t ≠ ['/']) (hslash' : t' ≠ ['/']) (h : sentBehind front t = sentBehind front t') :
    t = t' := by
  have hroot {u : List Char} (hu : Tail u) (hne : u ≠ ['/']) : ['/'] ≠ encode u := by
    intro heq
    have hslash : encode ['/'] = ['/'] := rfl
    rw [← hslash] at heq
    exact hne (encode_injective (by decide) (hu.not_mem (by decide)) heq).symm
  rw [sentBehind, sentBehind] at h
  split at h
  · next hfirst =>
    rw [hfirst.1, List.nil_append] at h
    split at h
    · next hsecond => rw [hfirst.2, hsecond.2]
    · exact (hroot ht' hslash' h).elim
  · split at h
    · next hsecond =>
      rw [hsecond.1, List.nil_append] at h
      exact (hroot ht hslash h.symm).elim
    · exact encode_injective (ht.not_mem (by decide)) (ht'.not_mem (by decide))
        (List.append_cancel_left h)

/-- What is sent of a tail is all path. -/
theorem path_at {front : List Char} (hfront : ∀ c ∈ front, isPathChar c = true) (t : List Char)
    (place : Place) :
    (place.at (sentBehind front t)).path = String.ofList (sentBehind front t) := by
  have hall : ∀ c ∈ sentBehind front t, (c != '?') = true := by
    have hsent : ∀ c ∈ sentBehind front t, isPathChar c = true := by
      rw [sentBehind]
      split
      · exact forall_mem_of_all (by decide)
      · rw [List.forall_mem_append]
        exact ⟨hfront, fun c hc => isPathChar_of_mem_encode hc⟩
    intro c hc
    have hpath := hsent c hc
    rw [bne_iff_ne]
    rintro rfl
    exact absurd hpath (by decide)
  rw [path, Place.at, String.toList_ofList, List.takeWhile_eq_self_iff.mpr hall]

end Url

/-! ## requests -/

/-- What stands behind the collection in the address of a request. -/
def Request.tail : Request → List Char
  | create _ | list => []
  | fetch id | update id _ | delete id => '/' :: id.text.toList
  | execute id _ => '/' :: id.text.toList ++ "/execute".toList

/-- An id that is read as it is when it stands in an address. -/
structure Id.IsPlain {subject : Subject} (id : Id subject) : Prop where
  nonempty : id.text ≠ ""
  kept : ∀ c ∈ id.text.toList, Url.isIgnored c = false ∧ c ∉ ['?', '#', '%', '\\']
  undotted : ∀ segment ∈ Url.pieces Url.isSlash id.text.toList, Url.Undotted segment
  ends : ∀ c ∈ id.text.toList.getLast?, Url.isEdge c = false

namespace Http

open Url

theorem toList_path (r : Request) : r.path.toList = '/' :: (collection ++ r.tail) := by
  cases r with
  | create _ | list =>
      change "/workflows".toList = '/' :: (collection ++ [])
      decide
  | fetch id | update id _ | delete id =>
      rw [Request.path, String.toList_append]
      rfl
  | execute id _ =>
      rw [Request.path, String.toList_append, String.toList_append]
      rfl

/-- A plain id stands behind a slash as it is. -/
theorem tail_of_isPlain {id : WorkflowId} (h : id.IsPlain) : Tail ('/' :: id.text.toList) := by
  obtain ⟨hnonempty, hkept, hundotted, hends⟩ := h
  refine ⟨fun c hc => (Option.some.inj hc).symm, ?_, ?_, ?_⟩
  · rw [List.forall_mem_cons]
    exact ⟨by decide, hkept⟩
  · rw [pieces, if_pos (by decide), List.forall_mem_cons]
    exact ⟨⟨by decide, by decide⟩, hundotted⟩
  · cases hid : id.text.toList with
    | nil => exact (hnonempty (String.toList_eq_nil_iff.mp hid)).elim
    | cons c rest =>
        rw [List.getLast?_cons_cons, ← hid]
        exact hends

/-- The name of the execution stands behind every tail as it is. -/
theorem tail_execute {t : List Char} (h : Tail t) : Tail (t ++ "/execute".toList) := by
  have hexecute : "/execute".toList = '/' :: "execute".toList := by decide
  refine ⟨?_, ?_, ?_, ?_⟩
  · obtain rfl | ⟨cs, rfl⟩ := h.nil_or_cons
    · exact fun c hc => (Option.some.inj hc).symm
    · exact h.starts
  · rw [List.forall_mem_append]
    exact ⟨h.kept, forall_mem_of_all (by decide)⟩
  · rw [hexecute, pieces_append (by decide), List.forall_mem_append]
    exact ⟨h.undotted, by decide⟩
  · have hlast : "/execute".toList.getLast? = some 'e' := by decide
    rw [List.getLast?_append, hlast, Option.some_or]
    intro c hc
    rw [← Option.some.inj hc]
    decide

/-- What is behind the collection in the address of a request about a plain id. -/
theorem tail_of_addressee {r : Request} {id : WorkflowId} (hr : r.addressee? = some id)
    (hid : id.IsPlain) : Tail r.tail ∧ r.tail ≠ ['/'] := by
  have hne : '/' :: id.text.toList ≠ ['/'] := fun h =>
    hid.nonempty (String.toList_eq_nil_iff.mp (List.cons.inj h).2)
  cases r with
  | create _ | list => exact nomatch hr
  | fetch other | update other _ | delete other =>
      obtain rfl := Option.some.inj hr
      exact ⟨tail_of_isPlain hid, hne⟩
  | execute other input =>
      obtain rfl := Option.some.inj hr
      refine ⟨tail_execute (tail_of_isPlain hid), fun h => ?_⟩
      exact nomatch (List.append_eq_singleton_iff.mp h).resolve_left (by simp)

theorem tail_of_no_addressee {r : Request} (hr : r.addressee? = none) : r.tail = [] := by
  cases r with
  | create _ | list => rfl
  | fetch _ | update _ _ | delete _ | execute _ _ => exact nomatch hr

theorem tail_nil : Tail [] :=
  ⟨nofun, List.forall_mem_nil _, by decide, nofun⟩

/-- Method and path tell what a request is about. -/
theorem addressee_eq {r r' : Request} (hmethod : r.method = r'.method) (htail : r.tail = r'.tail) :
    r.addressee? = r'.addressee? := by
  have hid {i j : WorkflowId} (h : i.text.toList = j.text.toList) : some i = some j := by
    obtain ⟨s⟩ := i
    obtain ⟨s'⟩ := j
    obtain rfl : s = s' := String.toList_injective h
    rfl
  cases r with
  | create _ =>
      cases r' with
      | create _ => rfl
      | execute _ _ => exact nomatch htail
      | _ => exact nomatch hmethod
  | list =>
      cases r' with
      | list => rfl
      | fetch _ => exact nomatch htail
      | _ => exact nomatch hmethod
  | fetch _ =>
      cases r' with
      | fetch _ => exact hid (List.cons.inj htail).2
      | list => exact nomatch htail
      | _ => exact nomatch hmethod
  | update _ _ =>
      cases r' with
      | update _ _ => exact hid (List.cons.inj htail).2
      | _ => exact nomatch hmethod
  | delete _ =>
      cases r' with
      | delete _ => exact hid (List.cons.inj htail).2
      | _ => exact nomatch hmethod
  | execute _ _ =>
      cases r' with
      | execute _ _ => exact hid (List.cons.inj (List.append_cancel_right htail)).2
      | create _ => exact nomatch htail
      | _ => exact nomatch hmethod

variable {base : String}

/-- Requests under one base whose tails are read as they are go to one path only
if the tails are the same. -/
theorem tail_eq_of_path_eq (hquery : '?' ∉ base.toList) (hfragment : '#' ∉ base.toList)
    {r r' : Request} (ht : Tail r.tail) (ht' : Tail r'.tail) (hslash : r.tail ≠ ['/'])
    (hslash' : r'.tail ≠ ['/'])
    {m m' : Message} (hm : message? base r = some m) (hm' : message? base r' = some m')
    (hpath : m.url.path = m'.url.path) : r.tail = r'.tail := by
  let trimmed := (base.toList.reverse.dropWhile (· == '/')).reverse
  have htrimmed : ∀ c ∈ trimmed, c ∉ ['?', '#'] := by
    intro c hc hmark
    have hmem : c ∈ base.toList :=
      List.mem_reverse.mp (List.dropWhile_subset _ (List.mem_reverse.mp hc))
    simp only [List.mem_cons, List.not_mem_nil, or_false] at hmark
    obtain rfl | rfl := hmark
    · exact hquery hmem
    · exact hfragment hmem
  have haddress (r : Request) :
      address base r = String.ofList (trimmed ++ '/' :: (collection ++ r.tail)) := by
    rw [address, ← toList_path, String.ofList_append, String.ofList_toList]
  obtain ⟨place, front, hfront, htarget⟩ := exists_target htrimmed
  rw [message?, haddress, htarget _ ht] at hm
  rw [message?, haddress, htarget _ ht'] at hm'
  cases place with
  | none => exact nomatch hm
  | some place =>
      obtain rfl := Option.some.inj hm
      obtain rfl := Option.some.inj hm'
      rw [path_at hfront, path_at hfront] at hpath
      exact sentBehind_injective ht ht' hslash hslash' (String.ofList_injective hpath)

/-- **Plain ids are told apart** on the wire: under one base without a `?` or
`#`, no request about one is sent with the method and to the path of a request
about another, or of one that is about no workflow. -/
theorem plain_ids_apart (hquery : '?' ∉ base.toList) (hfragment : '#' ∉ base.toList)
    {i j : WorkflowId} (hi : i.IsPlain) (hj : j.IsPlain) (hij : i ≠ j) {r r' : Request}
    (hr : r.addressee? = some i) (hr' : r'.addressee? = some j ∨ r'.addressee? = none)
    {m m' : Message} (hm : message? base r = some m) (hm' : message? base r' = some m') :
    ¬(m.method = m'.method ∧ m.url.path = m'.url.path) := by
  rintro ⟨hmethod, hpath⟩
  have hmethods : r.method = r'.method := by
    obtain ⟨url, -, rfl⟩ := Option.map_eq_some_iff.mp hm
    obtain ⟨url', -, rfl⟩ := Option.map_eq_some_iff.mp hm'
    exact hmethod
  obtain ⟨ht, hslash⟩ := tail_of_addressee hr hi
  have htail' : Tail r'.tail ∧ r'.tail ≠ ['/'] := by
    obtain hr' | hr' := hr'
    · exact tail_of_addressee hr' hj
    · rw [tail_of_no_addressee hr']
      exact ⟨tail_nil, by decide⟩
  have htails := tail_eq_of_path_eq hquery hfragment ht htail'.1 hslash htail'.2 hm hm' hpath
  have haddressee := addressee_eq hmethods htails
  rw [hr] at haddressee
  obtain hr' | hr' := hr'
  · exact hij (Option.some.inj (haddressee.trans hr'))
  · exact nomatch haddressee.trans hr'

/-- Two ids with a blank and a slash at the same place are sent differently. -/
theorem plain_ids_apart_delete :
    let base := "http://h"
    ∃ m m', message? base (.delete ⟨"my flow"⟩) = some m ∧
      message? base (.delete ⟨"my/flow"⟩) = some m' ∧ m.method = m'.method ∧
      m.url.path ≠ m'.url.path := by
  intro base
  have hm : message? base (.delete ⟨"my flow"⟩) =
      some ⟨.delete, ⟨false, "h", 80, "/workflows/my%20flow"⟩, none⟩ :=
    Option.map_eq_some_iff.mpr ⟨_, by decide +kernel, rfl⟩
  have hm' : message? base (.delete ⟨"my/flow"⟩) =
      some ⟨.delete, ⟨false, "h", 80, "/workflows/my/flow"⟩, none⟩ :=
    Option.map_eq_some_iff.mpr ⟨_, by decide +kernel, rfl⟩
  refine ⟨_, _, hm, hm', rfl, fun hpath => ?_⟩
  have hends {id : WorkflowId} (h : id.text.toList.getLast? = some 'w') :
      ∀ c ∈ id.text.toList.getLast?, isEdge c = false := by
    intro c hc
    rw [← Option.some.inj (h.symm.trans hc)]
    decide
  have hi : (⟨"my flow"⟩ : WorkflowId).IsPlain :=
    ⟨by decide, forall_mem_of_all (by decide), by decide, hends (by decide)⟩
  have hj : (⟨"my/flow"⟩ : WorkflowId).IsPlain :=
    ⟨by decide, forall_mem_of_all (by decide), by decide, hends (by decide)⟩
  exact plain_ids_apart (by decide) (by decide) hi hj (by decide) rfl (.inl rfl) hm hm' ⟨rfl, hpath⟩

/-- Ids that are not plain are not told apart: what follows a `#` is not sent and
what follows a `?` is no path, dots lead to another workflow or to the
collection, a backslash is a slash, tabs and blanks at the end are dropped, and
a blank is sent like its spelling with `%`. -/
theorem ids_clash :
    let base := "http://h"
    let sent (r : Request) := (message? base r).map fun m => (m.method, m.url.path)
    '?' ∉ base.toList ∧ '#' ∉ base.toList ∧
      (∀ id ∈ ["a", "a#x", "a?x", "b/../a", "a\t", "a "],
        sent (.delete ⟨id⟩) = some (.delete, "/workflows/a")) ∧
      sent .list = some (.get, "/workflows") ∧
      sent (.fetch ⟨"../workflows"⟩) = some (.get, "/workflows") ∧
      (∀ id ∈ ["a/b", "a\\b"], sent (.fetch ⟨id⟩) = some (.get, "/workflows/a/b")) ∧
      ∀ id ∈ ["a b", "a%20b"], sent (.fetch ⟨id⟩) = some (.get, "/workflows/a%20b") := by
  decide +kernel

end Http

end WorkflowEditor

import Beacon.Node.Client
import Beacon.Proofs.Http.Location

/-!
# Where the Request for an Identifier Goes

The identifier of a block is text that a caller chose, and it is put behind a path as it
is. The path is then read as a location and put under the base of the node. What arrives
there is told here for every identifier.

Between the caller and the node, a number sign cuts the rest off, a question mark makes it
a query, a slash ends a step, a move takes steps back, and an escape stands for something
else. An identifier without all that arrives: one step stands behind the endpoint, and with
its escapes resolved it is the identifier. An identifier with any of that does not arrive,
and that is where the argument is. Each step that is left in the end is the written form of
a piece of what was not cut off. A piece is no longer than the whole, and it stands for
something no longer than itself, so it can only stand for the identifier if it is all of it
and has no escapes (`Url.literal_of_decode`).

The base has a say in it. If it has a query, everything behind it is query. If it has no
scheme and no authority, moves are left alone, so that they arrive as well.

## Main definitions

* `Url.IsEndpoint`: A path that others can be put behind.
* `Url.Behind`: A path that something was put behind.
* `Url.Literal`: A text stands for itself as a step of a path.
* `Url.Names`: A location is that of a name under a path.
* `Client.blocks`, `Client.blobSidecars`: What identifiers are put behind.

## Theorems

* `Url.IsEndpoint.under`: What was put behind an endpoint is put under a base.
* `Url.Behind.exists_piece`, `Url.Behind.path_eq`: Where the last step comes from, and when
  it stays.
* `Url.IsEndpoint.names_iff`: Which names arrive.
* `Url.names_unique`: A location is that of one name under one path at most.
* `Client.request_names_iff`: Which identifiers arrive.
-/

namespace Beacon

open Outcome

namespace Url

variable {base u v : Url} {endpoint t : Text}

/-- A path that others can be put behind without a sign of it being read as something
    else. -/
structure IsEndpoint (endpoint : Text) : Prop where
  nonempty : endpoint ≠ []
  head : endpoint.head? ≠ some slash
  hash : .char '#' ∉ endpoint
  question : .char '?' ∉ endpoint
  written : quoted endpoint = endpoint
  still : ∀ s ∈ Text.pieces slash endpoint, ¬IsDots s

/-- What of a text behind a path is still read as path. -/
def pathPart (t : Text) : Text := (Text.cutAt (.char '?') (Text.cutAt (.char '#') t).1).1

/-- What of a text behind a path is read as query. -/
def queryPart (t : Text) : Option Text := (Text.cutAt (.char '?') (Text.cutAt (.char '#') t).1).2

theorem IsEndpoint.read (he : IsEndpoint endpoint)
    (h : Url.read (slash :: (endpoint ++ slash :: t)) = .ok u) :
    u.Assembled (slash :: (endpoint ++ slash :: pathPart t)) (queryPart t) ∧ u.isBare = true := by
  have hfront (c : CodePoint) (hslash : c ≠ slash) (hc : c ∉ endpoint) :
      c ∉ slash :: (endpoint ++ [slash]) := by
    rw [List.mem_cons, List.mem_append, List.mem_singleton]
    rintro (h | h | h)
    · exact hslash h
    · exact hc h
    · exact hslash h
  have hcons (t : Text) :
      slash :: (endpoint ++ slash :: t) = slash :: (endpoint ++ [slash]) ++ t := by
    rw [List.cons_append, List.append_assoc]
    rfl
  have hhead : (endpoint ++ slash :: t).head? ≠ some slash := by
    rw [List.head?_append_of_ne_nil _ he.nonempty]
    exact he.head
  rcases read_rooted hhead h with ⟨hbare, hu⟩
  refine ⟨?_, hbare⟩
  rw [hcons, Text.cutAt_append _ (hfront _ (by decide) he.hash)] at hu
  simp only [] at hu
  rw [Text.cutAt_append _ (hfront _ (by decide) he.question), ← hcons] at hu
  exact hu

theorem IsEndpoint.quoted (he : IsEndpoint endpoint) (t : Text) :
    Url.quoted (endpoint ++ slash :: t) = endpoint ++ slash :: Url.quoted t := by
  rw [quoted_append, he.written]

theorem cutAt_marked (q : Option (List Char)) : Text.cutAt '?' (marked '?' q) = ([], q) := by
  cases q with
  | none => rfl
  | some cs => exact Text.cutAt_cons '?' cs

/-- What is sought under a base: the slash in front is that of the base. -/
theorem IsEndpoint.target (he : IsEndpoint endpoint)
    (hread : Url.read (slash :: (endpoint ++ slash :: t)) = .ok u) : ∃ cs : List Char,
      Text.ofChars cs = endpoint ++ slash :: Url.quoted (pathPart t) ∧ '?' ∉ cs ∧
      u.target.dropWhile (· = '/') = cs ++ marked '?' u.query := by
  rcases he.read hread with ⟨hu, hbare⟩
  have hpath : Text.ofChars u.path = slash :: (endpoint ++ slash :: Url.quoted (pathPart t)) := by
    rw [hu.written, resolved, if_pos hbare]
    exact (quoted_append [] _).trans (congrArg (slash :: ·) (he.quoted _))
  have hchars : u.path = '/' :: (endpoint ++ slash :: Url.quoted (pathPart t)).chars := by
    rw [← Text.chars_ofChars u.path, hpath]
    rfl
  rw [hchars] at hpath
  have hback : Text.ofChars (endpoint ++ slash :: Url.quoted (pathPart t)).chars
      = endpoint ++ slash :: Url.quoted (pathPart t) := (List.cons.inj hpath).2
  refine ⟨_, hback, question_not_mem ?_, ?_⟩
  · rw [hback, he.quoted, quoted_quoted]
  rcases List.exists_cons_of_ne_nil he.nonempty with ⟨c, rest, rfl⟩
  have hc : ¬c.toChar = '/' := by
    cases c with
    | char c => exact fun heq => he.head (congrArg (fun d => some (CodePoint.char d)) heq)
    | half h => exact (by decide : ¬CodePoint.replacement = '/')
  rw [Url.target, hchars, List.isEmpty_cons, if_neg Bool.false_ne_true, List.cons_append,
    List.dropWhile_cons_of_pos (by decide)]
  exact List.dropWhile_cons_of_neg (by rw [decide_eq_true_eq]; exact hc)

/-- The path of a location begins with what has been written and has no moves, and something
    was put behind it. -/
structure Behind (v : Url) (front back : Text) : Prop where
  written : Url.quoted front = front
  still : v.isBare = false → ∀ s ∈ Text.pieces slash front, ¬IsDots s
  path : Text.ofChars v.path = Url.quoted (v.resolved (front ++ slash :: Url.quoted back))

/-- A text behind a path, put under a base without a query. -/
theorem IsEndpoint.under (he : IsEndpoint endpoint) (hbase : base.IsBase)
    (hquery : base.query = none) (hread : Url.read (slash :: (endpoint ++ slash :: t)) = .ok u)
    (h : base.under u = .ok v) : ∃ front : Text,
      (∀ t, Text.ofChars base.target ++ (endpoint ++ slash :: t) = front ++ slash :: t) ∧
      v.Behind front (pathPart t) ∧ (u.query = none ↔ v.query = none) := by
  rcases hbase.ends hquery with ⟨place, hplace⟩
  rcases hbase.settled.target hquery with ⟨hwritten, hstill⟩
  rcases he.target hread with ⟨cs, hcs, hquestion, htarget⟩
  unfold Url.under at h
  rw [htarget] at h
  rcases withTarget_append (question_not_mem hwritten) h with ⟨hbares, hv⟩
  rw [Text.cutAt_append '?' hquestion, cutAt_marked, Text.ofChars_append, List.append_nil,
    hcs] at hv
  have hslash : Text.ofChars base.target = Text.ofChars place ++ [slash] := by
    rw [hplace, Text.ofChars_append]
    rfl
  have hassoc (t : Text) : Text.ofChars base.target ++ (endpoint ++ slash :: t)
      = Text.ofChars place ++ slash :: endpoint ++ slash :: t := by
    rw [hslash, List.append_assoc, List.append_assoc]
    rfl
  rw [hassoc] at hv
  refine ⟨Text.ofChars place ++ slash :: endpoint, hassoc, ⟨?_, fun hbare s hs => ?_, hv.written⟩,
    ?_⟩
  · rw [hslash, quoted_append] at hwritten
    rw [quoted_append, (List.append_inj' hwritten rfl).1, he.written]
  · rw [Text.pieces_append, List.mem_append] at hs
    rcases hs with hs | hs
    · rw [Bool.eq_false_iff] at hbare
      refine hstill (Bool.eq_false_iff.mpr (mt hbares hbare)) s ?_
      rw [hslash, Text.pieces_append]
      exact List.mem_append_left _ hs
    · exact he.still s hs
  · rw [hv.query, Option.map_eq_none_iff, Option.map_eq_none_iff]

theorem slash_mem_ofChars {cs : List Char} : slash ∈ Text.ofChars cs ↔ '/' ∈ cs := by
  constructor
  · intro h
    rcases List.mem_map.mp h with ⟨c, hc, heq⟩
    rw [← CodePoint.char.inj heq]
    exact hc
  · exact List.mem_map_of_mem

section Behind

variable {front back : Text}

/-- The last step of a path, if it stands right behind the front, is what is written of a
    piece that was put there. -/
theorem Behind.exists_piece (hv : v.Behind front back) {segment : Text} (hsegment : slash ∉ segment)
    (hpath : Text.ofChars v.path = front ++ slash :: segment) :
    ∃ s ∈ Text.pieces slash back, segment = Url.quoted s ∧
      (v.isBare = false → ¬IsDots segment) := by
  rw [hv.path] at hpath
  cases hbare : v.isBare with
  | false =>
      rw [resolved, if_neg (Bool.eq_false_iff.mp hbare)] at hpath
      obtain ⟨s, hs, hquoted, hdots⟩ :=
        exists_piece_of_normalPath (hv.still hbare) hsegment hpath
      exact ⟨s, hs, hquoted, fun _ => hdots⟩
  | true =>
      rw [resolved, if_pos hbare, quoted_append, hv.written, quoted_quoted] at hpath
      obtain rfl := (List.cons.inj (List.append_cancel_left hpath)).2
      -- What is written is one piece, and so was what it is written of.
      have hpieces := pieces_quoted back
      rw [Text.pieces_of_not_mem slash hsegment] at hpieces
      rcases List.map_eq_singleton_iff.mp hpieces.symm with ⟨s, hs, hquoted⟩
      refine ⟨s, ?_, hquoted.symm, fun h => absurd h Bool.true_eq_false.mp⟩
      rw [hs]
      exact List.mem_singleton_self s

/-- A single step that is no move stays where it was put. -/
theorem Behind.path_eq (hv : v.Behind front back) (hslash : slash ∉ back)
    (hdots : v.isBare = false → ¬IsDots back) :
    Text.ofChars v.path = front ++ slash :: Url.quoted back := by
  have hresolved : v.resolved (front ++ slash :: Url.quoted back)
      = front ++ slash :: Url.quoted back := by
    refine resolved_of_still fun hbare s hs => ?_
    rw [Text.pieces_append, Text.pieces_of_not_mem slash (mt slash_mem_of_quoted hslash),
      List.mem_append, List.mem_singleton] at hs
    rcases hs with hs | rfl
    · exact hv.still hbare s hs
    · exact mt isDots_of_quoted (hdots hbare)
  rw [hv.path, hresolved, quoted_append, hv.written, quoted_quoted]

end Behind

/-! ### Names -/

/-- A text stands for itself as a step of a path: no sign in it ends the step, and it has no
    escapes. -/
structure Literal (t : Text) : Prop where
  slash : slash ∉ t
  question : .char '?' ∉ t
  hash : .char '#' ∉ t
  unescaped : ¬Percent.Escaped t.chars

/-- A location is that of a name under a path: one further step stands behind the path and
    stands for the name, and nothing is asked besides. -/
def Names (base : Url) (endpoint name : Text) (v : Url) : Prop :=
  v.query = none ∧ ∃ segment : List Char, '/' ∉ segment ∧
    Text.ofChars v.path = Text.ofChars base.target ++ (endpoint ++ slash :: Text.ofChars segment) ∧
    Text.ofChars (Percent.decode segment) = name

/-- A text that a piece of its path part stands for is that piece, and stands for itself. -/
theorem literal_of_decode {name s : Text} (hs : s ∈ Text.pieces slash (pathPart name))
    (h : Text.ofChars (Percent.decode s.chars) = name) : s = name ∧ Literal name := by
  have hlength : (Percent.decode s.chars).length = name.length := by
    rw [← h, Text.ofChars, List.length_map]
  rcases Percent.length_decode s.chars with ⟨hdecode, hescaped⟩
  rw [hlength, Text.chars, List.length_map] at hdecode hescaped
  -- Nothing was cut off on the way, since nothing is gained by resolving escapes.
  rcases Text.length_cutAt (.char '#') name with ⟨hrest, hhash⟩
  rcases Text.length_cutAt (.char '?') (Text.cutAt (.char '#') name).1 with ⟨hpath, hquestion⟩
  rw [← pathPart] at hpath hquestion
  have hpiece := Text.eq_or_length_lt_of_mem_pieces slash hs
  have hle : s.length ≤ (pathPart name).length := by
    rcases hpiece with rfl | hlt <;> omega
  have hpart : s = pathPart name := by
    rcases hpiece with rfl | hlt
    · rfl
    · omega
  have hnohash : .char '#' ∉ name := hhash (by omega)
  have hrest : (Text.cutAt (.char '#') name).1 = name := by rw [Text.cutAt_of_not_mem _ hnohash]
  have hnoquestion : .char '?' ∉ name := by
    rw [← hrest]
    exact hquestion (by omega)
  have hname : s = name := by
    rw [hpart, pathPart, hrest, Text.cutAt_of_not_mem _ hnoquestion]
  have hslash := Text.not_mem_of_mem_pieces slash hs
  subst hname
  exact ⟨rfl, hslash, hnoquestion, hnohash, fun hesc => absurd (hescaped hesc) (Nat.lt_irrefl _)⟩

/-- A location is that of a name under a path exactly if the name stands for itself and is
    no move, where moves count for nothing in a path by itself, and the base has no query. -/
theorem IsEndpoint.names_iff (he : IsEndpoint endpoint) (hbase : base.IsBase) {name : Text}
    (hread : Url.read (slash :: (endpoint ++ slash :: name)) = .ok u) (h : base.under u = .ok v) :
    Names base endpoint name v ↔
      base.query = none ∧ Literal name ∧ (v.isBare = false → ¬IsDots name) := by
  rcases he.read hread with ⟨hu, hubare⟩
  by_cases hquery : base.query = none
  swap
  · -- Behind a query nothing is path.
    rcases Option.ne_none_iff_exists'.mp hquery with ⟨q, hq⟩
    have hv : v.query ≠ none :=
      query_of_withTarget (List.mem_append_left _ (question_mem_target hq)) h
    exact iff_of_false (fun hnames => hv hnames.1) fun hconds => hquery hconds.1
  rcases he.under hbase hquery hread h with ⟨front, hassoc, hv, hvquery⟩
  constructor
  · rintro ⟨-, segment, hsegment, hpath, hdecode⟩
    rw [hassoc] at hpath
    rcases hv.exists_piece (mt slash_mem_ofChars.mp hsegment) hpath with ⟨s, hs, hquoted, hdots⟩
    have hname : Text.ofChars (Percent.decode (Text.chars s)) = name := by
      rw [← hdecode, ← Text.chars_ofChars segment, hquoted, chars_quoted, Percent.decode_encoded]
    rcases literal_of_decode hs hname with ⟨rfl, hliteral⟩
    refine ⟨hquery, hliteral, fun hbare hname => hdots hbare ?_⟩
    rw [hquoted, quoted_isDots hname]
    exact hname
  · rintro ⟨-, hliteral, hdots⟩
    have hrest : Text.cutAt (.char '#') name = (name, none) :=
      Text.cutAt_of_not_mem _ hliteral.hash
    have hpart : Text.cutAt (.char '?') name = (name, none) :=
      Text.cutAt_of_not_mem _ hliteral.question
    rw [pathPart, queryPart, hrest, hpart] at hu
    rw [pathPart, hrest, hpart] at hv
    refine ⟨hvquery.mp hu.query, Percent.encode pathSafe name.chars, ?_, ?_, ?_⟩
    · exact mt (slash_mem_of_quoted ∘ slash_mem_ofChars.mpr) hliteral.slash
    · rw [hassoc]
      exact hv.path_eq hliteral.slash hdots
    · have hwhole := hu.whole
      rw [resolved, if_pos hubare] at hwhole
      rw [Percent.decode_encoded, Percent.decode_eq_self_iff.mpr hliteral.unescaped]
      refine Text.ofChars_chars (Text.isBroken_of_subset hwhole fun p hp => ?_)
      exact List.mem_cons_of_mem _ (List.mem_append_right _ (List.mem_cons_of_mem _ hp))

/-- A location is that of one name under one path at most. -/
theorem names_unique {endpoint' name name' : Text} (h : Names base endpoint name v)
    (h' : Names base endpoint' name' v) : endpoint = endpoint' ∧ name = name' := by
  rcases h with ⟨-, segment, hsegment, hpath, rfl⟩
  rcases h' with ⟨-, segment', hsegment', hpath', rfl⟩
  rw [hpath] at hpath'
  have hpieces := congrArg (Text.pieces slash) (List.append_cancel_left hpath')
  rw [Text.pieces_append, Text.pieces_append,
    Text.pieces_of_not_mem slash (mt slash_mem_ofChars.mp hsegment),
    Text.pieces_of_not_mem slash (mt slash_mem_ofChars.mp hsegment')] at hpieces
  rcases List.append_inj' hpieces rfl with ⟨hfront, hlast⟩
  have hsegments : segment = segment' := by
    rw [← Text.chars_ofChars segment, List.singleton_inj.mp hlast, Text.chars_ofChars]
  refine ⟨?_, by rw [hsegments]⟩
  rw [← Text.join_pieces slash endpoint, hfront, Text.join_pieces]

end Url

namespace Client

open Url (slash)

variable {client : Client} {transport : Http.Transport} {address blockId : Text}

/-- What the identifier of a block is put behind. -/
def blocks : Text := "eth/v2/beacon/blocks"

/-- What the identifier of a block is put behind to get its sidecars. -/
def blobSidecars : Text := "eth/v1/beacon/blob_sidecars"

theorem isEndpoint_blocks : Url.IsEndpoint blocks := by
  constructor <;> decide +kernel

theorem isEndpoint_blobSidecars : Url.IsEndpoint blobSidecars := by
  constructor <;> decide +kernel

theorem make_eq_ok_iff : Client.make address transport = .ok client ↔
    ∃ base, (Url.read (trimmed address) >>= Url.asBase) = .ok base ∧
      ⟨trimmed address, base, transport⟩ = client := by
  unfold Client.make
  simp only [bind_eq_ok_iff]
  constructor
  · rintro ⟨u, hread, base, hbase, hclient⟩
    exact ⟨base, ⟨u, hread, hbase⟩, Except.ok.inj hclient⟩
  · rintro ⟨base, ⟨u, hread, hbase⟩, rfl⟩
    exact ⟨u, hread, base, hbase, rfl⟩

theorem isBase_of_make (h : Client.make address transport = .ok client) : client.base.IsBase := by
  rcases make_eq_ok_iff.mp h with ⟨base, hbase, rfl⟩
  rcases bind_eq_ok_iff.mp hbase with ⟨u, hread, hbase⟩
  exact (Url.settled_of_read hread).asBase hbase

theorem names_iff_of_lookUp {endpoint : Text} {request : Http.Request} (hbase : client.base.IsBase)
    (he : Url.IsEndpoint endpoint)
    (h : (client.lookUp (slash :: (endpoint ++ slash :: blockId))).toOption = some request) :
    Url.Names client.base endpoint blockId request.url ↔
      client.base.query = none ∧ Url.Literal blockId ∧
        (request.url.isBare = false → ¬Url.IsDots blockId) := by
  have hlook := ok_of_toOption h
  unfold Client.lookUp at hlook
  simp only [bind_eq_ok_iff] at hlook
  rcases hlook with ⟨u, hread, v, hunder, -, -, hrequest⟩
  obtain rfl := Except.ok.inj hrequest
  exact he.names_iff hbase hread hunder

/-- The request for a block, and the request for its sidecars, goes to the endpoint followed
    by one further step that stands for the identifier, with no query, exactly if the base
    location has no query and the identifier has none of the three signs that end a step, no
    escape, and is no move, where a base location that is a path by itself takes moves too. A
    location is that of one identifier at one endpoint at most, so that no two identifiers
    that arrive have the same request, and none has a request to another endpoint. -/
theorem request_names_iff (hmake : Client.make address transport = .ok client) :
    (∀ blockId request, client.request? (.block blockId) = some request →
      (Url.Names client.base blocks blockId request.url ↔
        client.base.query = none ∧ Url.Literal blockId ∧
          (request.url.isBare = false → ¬Url.IsDots blockId))) ∧
    (∀ blockId request, client.request? (.sidecars blockId) = some request →
      (Url.Names client.base blobSidecars blockId request.url ↔
        client.base.query = none ∧ Url.Literal blockId ∧
          (request.url.isBare = false → ¬Url.IsDots blockId))) ∧
    ∀ endpoint endpoint' blockId blockId' url, Url.Names client.base endpoint blockId url →
      Url.Names client.base endpoint' blockId' url → endpoint = endpoint' ∧ blockId = blockId' := by
  have hbase := isBase_of_make hmake
  refine ⟨fun blockId request h => ?_, fun blockId request h => ?_, ?_⟩
  · exact names_iff_of_lookUp hbase isEndpoint_blocks h
  · exact names_iff_of_lookUp hbase isEndpoint_blobSidecars h
  · intro endpoint endpoint' blockId blockId' url h h'
    exact Url.names_unique h h'

/-- An identifier with a blank, which is escaped on the way, arrives at both endpoints. -/
theorem request_names_blank :
    let transport : Http.Transport := fun _ _ => .error .interrupted
    ∃ client, Client.make "http://node.test" transport = .ok client ∧
      ∃ block sidecars, client.request? (.block "a b") = some block ∧
        client.request? (.sidecars "a b") = some sidecars ∧
        Url.Names client.base blocks "a b" block.url ∧
        Url.Names client.base blobSidecars "a b" sidecars.url ∧ block.url ≠ sidecars.url := by
  intro transport
  let base : Url := ⟨"http".toList, [], "node.test", none, [], none, none⟩
  let client : Client := ⟨"http://node.test", base, transport⟩
  have hmake : Client.make "http://node.test" transport = .ok client :=
    make_eq_ok_iff.mpr ⟨base, ok_of_toOption (by decide +kernel), by rfl⟩
  obtain ⟨block, hblock⟩ : ∃ block, client.request? (.block "a b") = some block :=
    Option.isSome_iff_exists.mp (by decide +kernel)
  obtain ⟨sidecars, hsidecars⟩ : ∃ sidecars, client.request? (.sidecars "a b") = some sidecars :=
    Option.isSome_iff_exists.mp (by decide +kernel)
  have hliteral : Url.Literal "a b" := by
    refine ⟨?_, ?_, ?_, Percent.not_escaped ?_⟩ <;> decide +kernel
  rcases request_names_iff hmake with ⟨hnames, hnames', hunique⟩
  have hone := (hnames _ _ hblock).mpr ⟨rfl, hliteral, fun _ => by decide +kernel⟩
  have htwo := (hnames' _ _ hsidecars).mpr ⟨rfl, hliteral, fun _ => by decide +kernel⟩
  refine ⟨client, hmake, block, sidecars, hblock, hsidecars, hone, htwo, fun heq => ?_⟩
  rw [← heq] at htwo
  exact absurd (hunique _ _ _ _ _ hone htwo).1 (by decide +kernel)

/-- An identifier with a question mark does not arrive, and identifiers that differ may have
    the same request, also that of another call. -/
theorem request_astray :
    let transport : Http.Transport := fun _ _ => .error .interrupted
    ∃ client, Client.make "http://node.test" transport = .ok client ∧
      (∃ request, client.request? (.block "head?x") = some request ∧
        ¬Url.Names client.base blocks "head?x" request.url) ∧
      client.request? (.block "head#x") = client.request? (.block "head") ∧
      client.request? (.block "../../../v1/config/spec") = client.request? .spec := by
  intro transport
  let base : Url := ⟨"http".toList, [], "node.test", none, [], none, none⟩
  let client : Client := ⟨"http://node.test", base, transport⟩
  have hmake : Client.make "http://node.test" transport = .ok client :=
    make_eq_ok_iff.mpr ⟨base, ok_of_toOption (by decide +kernel), by rfl⟩
  have hquery : (client.request? (.block "head?x")).map (fun request => request.url.query)
      = some (some ['x']) := by
    decide +kernel
  rcases Option.map_eq_some_iff.mp hquery with ⟨request, hrequest, hx⟩
  refine ⟨client, hmake, ⟨request, hrequest, fun hnames => ?_⟩, by decide +kernel,
    by decide +kernel⟩
  rw [hnames.1] at hx
  exact absurd hx.symm (Option.some_ne_none _)

end Client

end Beacon

import TieredStore.Text.Hexadecimal

/-!
# Locations of databases

A database is opened at a path, or at a URI of the scheme `file`.  A path that is
empty or reads `:memory:` leads to a database in memory; so does a URI with such a
path, or with the parameter `mode=memory`.  Everyone who opens a database in memory has
one to himself, unless a URI asks for a shared one.  Every other path leads to a file,
whose database belongs to everyone who opens it.

With `mode=ro` a URI asks for reading only.  It leads to a file that is there, and to
no database in memory, as nothing could be put into that.  Whoever opens the file in
this way is not kept from writing here.

Main results:

- Theorem `Location.place?_of_path`: the place of a path that is no URI.
- Theorem `Location.place?_of_plainUri`: a URI without special characters leads where
  its path leads.
-/

namespace TieredStore

namespace Location

/-- The meaning of a part of a URI, in which two hexadecimal digits after a percent sign
stand for a byte.  The part ends with a byte that is zero. -/
def unescape : List Char → List Char
  | [] => []
  | '%' :: a :: b :: rest =>
    match hexValue? [a, b] with
    | some 0 => []
    | some byte => Char.ofNat byte :: unescape rest
    | none => '%' :: unescape (a :: b :: rest)
  | c :: rest => c :: unescape rest

/-- The text before the first character of a kind, and the text after it if there is
one. -/
def cut (c : Char) (cs : List Char) : List Char × Option (List Char) :=
  (cs.takeWhile (· != c), (cs.dropWhile (· != c)).tail?)

/-- The parameters of a URI: what stands between ampersands, cut at the first equality
sign.  Those without a name are left out. -/
def parameters (query : List Char) : List (String × String) :=
  (query.splitOn '&').filterMap fun part =>
    let (name, value) := cut '=' part
    let name := String.ofList (unescape name)
    if name.isEmpty then none else some (name, String.ofList (unescape (value.getD [])))

/-- How a URI asks for a database. -/
structure Request where
  path : String
  /-- The parameters in the order in which they are given. -/
  parameters : List (String × String)

/-- Reads what follows the scheme of a URI.  An authority is empty or `localhost`;
what follows a number sign is ignored. -/
def Request.ofUri? (cs : List Char) : Option Request :=
  match cs with
  | '/' :: '/' :: rest =>
    let authority := String.ofList (rest.takeWhile (· != '/'))
    if authority = "" ∨ authority = "localhost" then some (request (rest.dropWhile (· != '/')))
    else none
  | cs => some (request cs)
where
  /-- The request that stands after the authority. -/
  request (cs : List Char) : Request :=
    let (path, query) := cut '?' (cs.takeWhile (· != '#'))
    ⟨String.ofList (unescape path), (query.map Location.parameters).getD []⟩

/-- Whether a parameter can be obeyed: those that have a meaning have fixed values. -/
def isObeyed (parameter : String × String) : Bool :=
  match parameter.1 with
  | "mode" => parameter.2 ∈ ["ro", "rw", "rwc", "memory"]
  | "cache" => parameter.2 ∈ ["shared", "private"]
  | "vfs" => parameter.2 ∈ ["unix", "unix-dotfile", "unix-excl", "unix-none"]
  | _ => true

/-- Whether a path leads to a database in memory. -/
def isMemoryPath (path : String) : Bool := path.isEmpty || path == ":memory:"

/-- The value of a parameter.  If it is given several times the last one counts. -/
def Request.parameter? (r : Request) (name : String) : Option String :=
  r.parameters.reverse.lookup name

/-- A database that belongs to everyone who opens it. -/
inductive SharedPlace where
  /-- The database in memory that is shared under a name. -/
  | memory (name : String)
  /-- The database in the file at a path.  A file that is not there may be created. -/
  | file (path : String) (creates : Bool)
  deriving DecidableEq

/-- Where a database is opened. -/
inductive Place where
  /-- A database in memory that belongs to whoever opens it. -/
  | own
  | shared (place : SharedPlace)
  deriving DecidableEq

/-- The place of the database that is requested. -/
def Request.place? (r : Request) : Option Place :=
  if r.parameters.all isObeyed then
    let mode := r.parameter? "mode"
    if isMemoryPath r.path || mode == some "memory" then
      if mode = some "ro" then none
      else some (if r.parameter? "cache" = some "shared" ∧ r.path ≠ "" then .shared (.memory r.path)
        else .own)
    else some (.shared (.file r.path (mode != some "ro" && mode != some "rw")))
  else none

/-- The place of a path.  No file has a name with a character that is zero. -/
def pathPlace? (path : String) : Option Place :=
  if path.toList.contains '\x00' then none
  else some (if isMemoryPath path then .own else .shared (.file path true))

/-- The place of the database that is opened at a path or URI. -/
def place? (location : String) : Option Place :=
  match location.toList with
  | 'f' :: 'i' :: 'l' :: 'e' :: ':' :: rest =>
    if rest.contains '\x00' then none else (Request.ofUri? rest).bind Request.place?
  | _ => pathPlace? location

/-! ## Paths and plain URIs -/

/-- Whether a location is a URI. -/
def IsUri (location : String) : Prop := "file:".toList <+: location.toList

/-- A location that is no URI is a path. -/
theorem place?_of_path {location : String} (h : ¬IsUri location) :
    place? location = pathPlace? location := by
  unfold place?
  split
  next rest heq => exact absurd ⟨rest, heq.symm⟩ h
  next => rfl

example : place? "" = some .own := by decide

example : place? ":memory:" = some .own := by decide

/-- A text without a percent sign is its own meaning. -/
theorem unescape_of_forall_ne {cs : List Char} (h : ∀ c ∈ cs, c ≠ '%') : unescape cs = cs := by
  induction cs with
  | nil => rfl
  | cons c rest ih =>
    rw [unescape, ih fun d hd => h d (List.mem_cons_of_mem _ hd)]
    rintro a b others rfl
    exact fun _ => h '%' List.mem_cons_self rfl

/-- Whether a text can be the path of a URI as it stands: it has no authority before it,
no parameters after it, and nothing in it that stands for something else. -/
structure IsPlain (path : String) : Prop where
  noAuthority : ¬['/', '/'] <+: path.toList
  noSpecial : ∀ c ∈ path.toList, c ≠ '%' ∧ c ≠ '?' ∧ c ≠ '#'

/-- All of a text is before the first character of a kind if there is none. -/
theorem takeWhile_of_forall_ne {cs : List Char} {c : Char} (h : ∀ d ∈ cs, d ≠ c) :
    cs.takeWhile (· != c) = cs ∧ cs.dropWhile (· != c) = [] := by
  induction cs with
  | nil => exact ⟨rfl, rfl⟩
  | cons d rest ih =>
    have hd : (d != c) = true := bne_iff_ne.2 (h d List.mem_cons_self)
    obtain ⟨htake, hdrop⟩ := ih fun e he => h e (List.mem_cons_of_mem _ he)
    simp only [List.takeWhile_cons, List.dropWhile_cons, hd, if_true, htake, hdrop, and_self]

/-- A plain path is requested without parameters. -/
theorem Request.ofUri?_of_isPlain {path : String} (h : IsPlain path) :
    Request.ofUri? path.toList = some ⟨path, []⟩ := by
  obtain ⟨hpath, hquery⟩ := takeWhile_of_forall_ne fun c hc => (h.noSpecial c hc).2.1
  have hall := (takeWhile_of_forall_ne fun c hc => (h.noSpecial c hc).2.2).1
  have hrequest : ofUri?.request path.toList = ⟨path, []⟩ := by
    simp only [ofUri?.request, cut, hall, hpath, hquery,
      unescape_of_forall_ne fun c hc => (h.noSpecial c hc).1, String.ofList_toList]
    rfl
  unfold ofUri?
  split
  next rest heq => exact absurd ⟨rest, heq.symm⟩ h.noAuthority
  next => rw [hrequest]

/-- A URI is read without its scheme. -/
theorem place?_of_uri (rest : String) :
    place? ("file:" ++ rest) = if rest.toList.contains '\x00' then none
      else (Request.ofUri? rest.toList).bind Request.place? := by
  have htext : ("file:" ++ rest).toList = 'f' :: 'i' :: 'l' :: 'e' :: ':' :: rest.toList := by
    rw [String.toList_append]
    rfl
  unfold place?
  split
  next others heq =>
    rw [htext] at heq
    cases heq
    rfl
  next hpath => exact absurd htext (hpath _)

example : place? "file:data.db?mode=ro" = some (.shared (.file "data.db" false)) := by
  decide +kernel

/-- A URI without special characters leads where its path leads. -/
theorem place?_of_plainUri {path : String} (h : IsPlain path) :
    place? ("file:" ++ path) = pathPlace? path := by
  rw [place?_of_uri, pathPlace?, Request.ofUri?_of_isPlain h]
  have hnone : ∀ name, Request.parameter? ⟨path, []⟩ name = none := fun _ => rfl
  have hplace : Request.place? ⟨path, []⟩ =
      some (if isMemoryPath path then .own else .shared (.file path true)) := by
    simp only [Request.place?, hnone, List.all_nil, if_true]
    cases isMemoryPath path <;> rfl
  rw [Option.bind_some, hplace]

end Location

end TieredStore

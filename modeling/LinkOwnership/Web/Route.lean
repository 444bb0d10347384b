/-
# LinkOwnership.Web.Route -- which call a request means

A `Route` is a method, a pattern of path segments and the action it stands for.  `resolve`
finds what a request means: the first route that fits method and path; or else that the path
is known under other methods only; or else, for a path with needless slashes at its end, the
path without them; or else nothing.

A parameter is a segment that is not empty.  The last word of a path may be followed by a line
feed.
-/
import LinkOwnership.Text.Utf8

namespace LinkOwnership.Web

set_option autoImplicit false

inductive Action where
  | addPackage
  | showPackage
  | removePackage
  | verifyHost
  | selectHost
  | unselectHost
  | setLinkHandling
  | showOwners
  | requestVerification
  | health
  /-- One of the pages about the interface itself. -/
  | documentation
  deriving DecidableEq, Repr

/-- A part of a path between slashes: a word, or a place for a parameter. -/
inductive Segment where
  | word (s : String)
  | parameter
  deriving DecidableEq, Repr

structure Route where
  methods : List String
  pattern : List Segment
  action : Action
  deriving DecidableEq, Repr

namespace Route

/-- The path of one package of one user. -/
def packagePath : List Segment :=
  [.word "v1", .word "users", .parameter, .word "packages", .parameter]

/-- The path of one host of a package, and what is done to it. -/
def hostPath (last : String) : List Segment :=
  packagePath ++ [.word "hosts", .parameter, .word last]

/-- A page about the interface itself. -/
def page (path : List String) : Route :=
  ⟨["GET", "HEAD"], path.map .word, .documentation⟩

/-- All routes, in the order in which they are tried. -/
def all : List Route := [
  page ["openapi.json"],
  page ["docs"],
  page ["docs", "oauth2-redirect"],
  page ["redoc"],
  ⟨["PUT"], packagePath, .addPackage⟩,
  ⟨["GET"], packagePath, .showPackage⟩,
  ⟨["DELETE"], packagePath, .removePackage⟩,
  ⟨["POST"], hostPath "verify", .verifyHost⟩,
  ⟨["PUT"], hostPath "selection", .selectHost⟩,
  ⟨["DELETE"], hostPath "selection", .unselectHost⟩,
  ⟨["PUT"], packagePath ++ [.word "link-handling"], .setLinkHandling⟩,
  ⟨["GET"], [.word "v1", .word "users", .parameter, .word "hosts", .parameter, .word "owners"],
    .showOwners⟩,
  ⟨["POST"], [.word "v1", .word "verification-requests"], .requestVerification⟩,
  ⟨["GET"], [.word "health"], .health⟩]

end Route

def splitSlashes : List Char → List (List Char)
  | [] => [[]]
  | c :: rest =>
      match splitSlashes rest with
      | [] => [[c]]
      | first :: more => if c = '/' then [] :: first :: more else (c :: first) :: more

/-- The parameters of the parts of a path that follows a pattern. -/
def parametersOf : List Segment → List (List Char) → Option (List String)
  | [], [] => some []
  | [.word s], [part] =>
      if part = s.toList ∨ part = s.toList ++ ['\n'] then some [] else none
  | .word s :: pattern, part :: parts =>
      if part = s.toList then parametersOf pattern parts else none
  | .parameter :: pattern, part :: parts =>
      if part = [] then none
      else (parametersOf pattern parts).map (String.ofList part :: ·)
  | _, _ => none

/-- The parameters of a path that follows the route's pattern behind its first slash. -/
def Route.parameters? (route : Route) (path : String) : Option (List String) :=
  match splitSlashes path.toList with
  | [] :: parts => parametersOf route.pattern parts
  | _ => none

inductive Resolution where
  | call (action : Action) (parameters : List String)
  | otherMethod
  | elsewhere (path : String)
  | unknown
  deriving DecidableEq, Repr

def withoutSlashes (path : String) : String :=
  String.ofList (path.toList.reverse.dropWhile (· = '/')).reverse

def resolve (method path : String) : Resolution :=
  let fitting := Route.all.findSome? fun route =>
    if method ∈ route.methods then
      (route.parameters? path).map (Resolution.call route.action)
    else none
  match fitting with
  | some call => call
  | none =>
      let known (path : String) := Route.all.any fun route => (route.parameters? path).isSome
      if known path then .otherMethod
      else
        let shorter := withoutSlashes path
        if path ≠ "/" ∧ shorter ≠ path ∧ known shorter then .elsewhere shorter else .unknown

/-! ## Addresses -/

/-- A byte that stands for itself in the address of a path.  A question mark or a number sign
would end the path. -/
def isAddressByte (b : UInt8) : Bool :=
  let c := Char.ofNat b.toNat
  b < 0x80 && (c.isAlphanum || "_.-~:/%=@[]!$&'()*+,;".toList.contains c)

/-- A byte of an address: itself, or a percent sign and two capital digits. -/
def addressByte (b : UInt8) : List Char :=
  if isAddressByte b then [Char.ofNat b.toNat]
  else '%' :: (Text.Hex.padded 2 b.toNat).map Char.toUpper

/-- The address of a path on this server. -/
def addressOf (path : String) : String :=
  String.ofList ((Text.Utf8.encodeString ("http://testserver" ++ path)).flatMap addressByte)

end LinkOwnership.Web

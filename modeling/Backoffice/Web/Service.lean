import Backoffice.Account.Access
import Backoffice.Menu.List
import Backoffice.Web.Response
import Backoffice.Web.Route
import Backoffice.Web.View

/-!
# The service

What the service does with a request: `Service.respond` leads a state and a request to an answer
and the next state.  A request that fails leaves the tables and the sessions as they were; only a
session that is over may be dropped when it is looked for.
-/

namespace Backoffice.Web

open Form (Checked FieldError)

/-- The paths along which the tables of the lists are reached. -/
structure AccessPaths where
  users : AccessPath
  picker : LookupSource → AccessPath
  menu : AccessPath

/-- The paths through all tables by the numbers of their rows. -/
def AccessPaths.byNumber : AccessPaths :=
  ⟨.byNumber, fun _ => .byNumber, .byNumber⟩

/-- The service and what surrounds a request: the settings, the origins that pages may call from,
the default sort field of users, the time, what is drawn at random, and the paths along which tables
are reached. -/
structure Service where
  settings : Settings
  allowedOrigins : List String
  userSort : String
  now : WallTime
  salts : FreshSalts
  freshRequestId : String
  paths : AccessPaths := .byNumber

/-- Why a request is not carried out. -/
inductive Stop
  | notFound
  /-- The address takes other methods, of which one is suggested. -/
  | methodNotAllowed (suggested : String)
  /-- The address or the body have errors. -/
  | unprocessable (errors : List FieldError)
  | failed (f : Failure)
deriving Repr

/-- An answer to a request that was carried out. -/
structure Reply where
  status : Nat
  body : Json
deriving Repr

/-- The good answer. -/
def Reply.ok (body : Json) : Reply := ⟨200, body⟩

/-- The answer that something was created. -/
def Reply.created (body : Json) : Reply := ⟨201, body⟩

/-- What comes of an action: an answer with the next state, or the reason to stop. -/
abbrev Outcome := Except Stop (Reply × State)

/-- A result, or the stop that a failure is. -/
def orFail {α : Type} : Except Failure α → Except Stop α
  | .ok a => .ok a
  | .error f => .error (.failed f)

/-- A result, or the stop that a refusal is. -/
def orRefuse {α : Type} : Except Refusal α → Except Stop α
  | .ok a => .ok a
  | .error r => .error (.failed (.refused r))

/-- A form, or the stop that its errors are. -/
def orReject {α : Type} : Checked α → Except Stop α
  | .ok a => .ok a
  | .failed errors => .error (.unprocessable errors)

/-- Reads a form from the body of a request, which has to be an object in JSON. -/
def readBody {α : Type} (read : List (String × Json) → Checked α) (r : Request) : Checked α :=
  match r.body with
  | none | some .null => .failed [⟨["body"], .missing⟩]
  | some (.obj fields) =>
    if r.hasJsonBody then (read fields).under "body" else .failed [⟨["body"], .notObject⟩]
  | some _ => .failed [⟨["body"], .notObject⟩]

/-- Reads the number of a user from the address. -/
def readUserId (id : String) : Checked Int :=
  ((Form.Slot.mk "user_id" (some (.str id))).required Form.asInt).under "path"

/-- The roles that may change users. -/
def adminRoles : List Json := [.str "ADMIN"]

namespace Service

variable (env : Service)

/-- Adds the user of a registration. -/
def register (s : State) (r : Request) : Outcome := do
  let form ← orReject (readBody RegisterForm.read r)
  let (_, tables) ← orFail (s.tables.register env.now env.salts form)
  return (.created (.obj [("success", .bool true),
    ("messages", .arr [.str "User successfully created!"])]), { s with tables })

/-- Logs a user in. -/
def login (s : State) (r : Request) : Outcome := do
  let form ← orReject (readBody LoginForm.read r)
  let (principal, s) ← orFail (s.login env.settings env.now form)
  return (.ok principal.view, s)

/-- Logs the holder of the token out. -/
def logout (s : State) (r : Request) : Outcome :=
  .ok (.ok (.obj [("status", .str "logged_out")]), s.logout env.now (r.bearer.getD ""))

/-- Shows the session. -/
def refreshUser (session : SessionFields) (s : State) : Outcome :=
  .ok (.ok (.obj (Json.setField "is_logged_in" (.bool true) session)), s)

/-- Lists users. -/
def listUsers (params : ListParams) (s : State) : Outcome := do
  let directive ← orFail ((User.listSpecSortedBy env.userSort).compile env.settings params)
  let listing ← orFail (s.tables.listUsers directive env.paths.users)
  return (.ok (s.tables.usersView params listing), s)

/-- Adds a user. -/
def createUser (session : SessionFields) (s : State) (r : Request) : Outcome := do
  orRefuse (session.requireRole adminRoles)
  let form ← orReject (readBody NewUserForm.read r)
  let (user, tables) ← orFail (s.tables.addUser env.now env.salts session.actorLabel form)
  return (.created (tables.userView user), { s with tables })

/-- Shows a user. -/
def getUser (id : String) (s : State) : Outcome := do
  let id ← orReject (readUserId id)
  let user ← orFail (s.tables.userById id)
  return (.ok (s.tables.userView user), s)

/-- Changes a user. -/
def updateUser (session : SessionFields) (id : String) (s : State) (r : Request) : Outcome := do
  orRefuse (session.requireRole adminRoles)
  let (id, form) ← orReject (Prod.mk <$> readUserId id <*> readBody UserEditForm.read r)
  let user ← orFail (s.tables.userById id)
  let (user, tables) ← orFail
    (s.tables.updateUser env.now session.actorLabel user form.patch)
  return (.ok (tables.userView user), { s with tables })

/-- Marks a user as deleted. -/
def deleteUser (session : SessionFields) (id : String) (s : State) : Outcome := do
  orRefuse (session.requireRole adminRoles)
  let id ← orReject (readUserId id)
  let user ← orFail (s.tables.userById id)
  let (_, tables) := s.tables.softDeleteUser env.now session.actorLabel user
  return (.ok (.obj [("status", .str "deleted"), ("id", .int id)]), { s with tables })

/-- Lists the rows of a picker. -/
def listLookup (source : String) (params : ListParams) (s : State) : Outcome := do
  let source ← orFail (LookupSource.ofName source)
  let directive ← orFail (source.listSpec.compile env.settings params)
  let listing ← orFail (s.tables.lookup source directive (env.paths.picker source))
  return (.ok (lookupView listing), s)

/-- Shows the menu. -/
def showMenu (s : State) : Outcome := do
  let groups ← orFail (s.tables.menu env.settings env.paths.menu)
  return (.ok (.arr (groups.map (·.view))), s)

/-- What is left of an outcome: the answer or the reason to stop, and the state, which a stop
leaves as it was. -/
def settle (s : State) : Outcome → Except Stop Reply × State
  | .ok (reply, next) => (.ok reply, next)
  | .error stop => (.error stop, s)

/-- Carries out an action for the session of the request. -/
def withSession (s : State) (r : Request) (act : SessionFields → State → Outcome) :
    Except Stop Reply × State :=
  match authenticate env.settings env.now r.bearer s.sessions with
  | (.error refusal, sessions) => (.error (.failed (.refused refusal)), { s with sessions })
  | (.ok session, sessions) => settle { s with sessions } (act session { s with sessions })

/-- Carries out a list request: its parameters are checked before its session. -/
def withList (s : State) (r : Request) (params : Except Refusal ListParams)
    (act : ListParams → State → Outcome) : Except Stop Reply × State :=
  match params with
  | .error refusal => (.error (.failed (.refused refusal)), s)
  | .ok params => env.withSession s r fun _ s => act params s

/-- Carries out an action. -/
def perform (s : State) (r : Request) : Action → Except Stop Reply × State
  | .landing =>
    (.ok (.ok (.obj [("service", .str env.settings.appName), ("status", .str "ok")])), s)
  | .health => (.ok (.ok (.obj [("status", .str "ok")])), s)
  | .healthStatus =>
    (.ok (.ok (.obj [("status", .str "healthy"),
      ("timestamp", .str (Moment.utc env.now).text)])), s)
  | .register => settle s (env.register s r)
  | .login => settle s (env.login s r)
  | .logout => env.withSession s r fun _ s => env.logout s r
  | .refreshUser => env.withSession s r refreshUser
  | .listUsers => env.withList s r (r.listQuery.params env.settings) env.listUsers
  | .createUser => env.withSession s r fun session s => env.createUser session s r
  | .getUser id => env.withSession s r fun _ s => getUser id s
  | .updateUser id => env.withSession s r fun session s => env.updateUser session id s r
  | .deleteUser id => env.withSession s r fun session s => env.deleteUser session id s
  | .listLookup source =>
    env.withList s r (r.listQuery.lookupParams env.settings) (env.listLookup source)
  | .showMenu => env.withSession s r fun _ s => env.showMenu s

/-- Carries out a request. -/
def carryOut (s : State) (r : Request) : Except Stop Reply × State :=
  match Route.ofSegments r.segments with
  | none => (.error .notFound, s)
  | some route =>
    match route.action? r.method with
    | none => (.error (.methodNotAllowed route.suggestedMethod), s)
    | some action => env.perform s r action

/-- The id of a request: the one that came with it, if it is a proper one. -/
def requestId (r : Request) : String :=
  (keptRequestId ((r.header "X-Request-ID").getD "")).getD env.freshRequestId

/-- A body that tells one thing. -/
def detail (v : Json) : Json :=
  .obj [("detail", v)]

/-- The status and the body of an answer.  A failure that the service has no answer for has
none. -/
def answer? (requestId : String) : Except Stop Reply → Option (Nat × Json)
  | .ok reply => some (reply.status, reply.body)
  | .error .notFound => some (404, detail (.str "Not Found"))
  | .error (.methodNotAllowed _) => some (405, detail (.str "Method Not Allowed"))
  | .error (.unprocessable errors) => some (422, detail (.arr (errors.map (·.view))))
  | .error (.failed (.refused r)) => some (r.status, detail (.str r.detail))
  | .error (.failed (.uncompilable _)) =>
    some (500, .obj [("detail", .str "Query could not be compiled"),
      ("request_id", .str requestId)])
  | .error (.failed _) => none

/-- The headers that belong to the outcome alone. -/
def outcomeHeaders : Except Stop Reply → List (String × String)
  | .error (.methodNotAllowed suggested) => [("Allow", suggested)]
  | _ => []

/-- The answer to a request and the next state.  A failure without an answer of its own gives a
bare text. -/
def respond (s : State) (r : Request) : Response × State :=
  let id := env.requestId r
  let (result, next) := env.carryOut s r
  match answer? id result with
  | some (status, body) =>
    let body := Body.json body
    (⟨status, body, answerHeaders env.allowedOrigins (r.header "Origin") id ++
      body.contentHeaders ++ outcomeHeaders result⟩, next)
  | none =>
    let body := Body.text "Internal Server Error"
    (⟨500, body, body.contentHeaders⟩, next)

end Service

end Backoffice.Web

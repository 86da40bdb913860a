import Backoffice.Web.Request

/-!
# Routes

The addresses of the service and the methods that each takes.  That a server may redirect an address
with a slash too many to the one without it is left out: such an address leads nowhere here.
-/

namespace Backoffice.Web

/-- An address of the service. -/
inductive Route
  | landing
  | health
  | healthStatus
  | register
  | login
  | logout
  | refreshUser
  | users
  | user (id : String)
  | lookup (source : String)
  | menu
deriving Repr, DecidableEq

/-- What is asked of an address. -/
inductive Action
  | landing
  | health
  | healthStatus
  | register
  | login
  | logout
  | refreshUser
  | listUsers
  | createUser
  | getUser (id : String)
  | updateUser (id : String)
  | deleteUser (id : String)
  | listLookup (source : String)
  | showMenu
deriving Repr, DecidableEq

namespace Route

/-- The address without a parameter that has these parts. -/
def fixed? : List String → Option Route
  | ["", ""] => some landing
  | ["", "health"] => some health
  | ["", "api", "health", "status"] => some healthStatus
  | ["", "api", "auth", "register"] => some register
  | ["", "api", "auth", "login"] => some login
  | ["", "api", "auth", "logout"] => some logout
  | ["", "api", "auth", "refresh-user"] => some refreshUser
  | ["", "api", "users"] => some users
  | ["", "api", "menu"] => some menu
  | _ => none

/-- The parts of a path, of which the last loses the line feed that it may end in. -/
def withoutLineFeed : List String → List String
  | [] => []
  | [part] =>
    [if part.toList.getLast? = some '\n' then String.ofList part.toList.dropLast else part]
  | part :: parts => part :: withoutLineFeed parts

/-- The address that a path leads to.  A parameter is not empty, and a line feed belongs to it; an
address without one is found with a line feed behind it, too. -/
def ofSegments : List String → Option Route
  | ["", "api", "users", id] => if id = "" then none else some (user id)
  | ["", "api", "lookups", source] => if source = "" then none else some (lookup source)
  | parts => fixed? (withoutLineFeed parts)

/-- The method that is suggested where another is not allowed. -/
def suggestedMethod : Route → String
  | register | login | logout => "POST"
  | _ => "GET"

/-- What a method asks of an address. -/
def action? : Route → String → Option Action
  | landing, "GET" => some .landing
  | health, "GET" => some .health
  | healthStatus, "GET" => some .healthStatus
  | register, "POST" => some .register
  | login, "POST" => some .login
  | logout, "POST" => some .logout
  | refreshUser, "GET" => some .refreshUser
  | users, "GET" => some .listUsers
  | users, "POST" => some .createUser
  | user id, "GET" => some (.getUser id)
  | user id, "PUT" => some (.updateUser id)
  | user id, "DELETE" => some (.deleteUser id)
  | lookup source, "GET" => some (.listLookup source)
  | menu, "GET" => some .showMenu
  | _, _ => none

end Route

end Backoffice.Web

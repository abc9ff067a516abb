import ClientSynth.Value

/-!
# Sample documents

Documents without faults, to start from and to try the program with. `Sample.find?` finds one by its
name.
-/

namespace ClientSynth.Sample

/-- A property with a description. -/
def property (kind description : String) : Value :=
  .object [("type", .text kind), ("description", .text description)]

/-- A schema of objects. -/
def objectSchema (properties : List (String × Value)) (required : List String) : Value :=
  .object ([("type", .text "object"), ("properties", .object properties)] ++
    if required.isEmpty then [] else [("required", .texts required)])

/-- The properties of a user. -/
def userProperties : List (String × Value) :=
  [("id", property "number" "User ID"),
   ("name", property "string" "Display name"),
   ("email", property "string" "Email address"),
   ("avatar", property "string" "Avatar URL"),
   ("createdAt", property "string" "Creation time")]

/-- The properties that a user has to have. -/
def userRequired : List String := ["id", "name", "email"]

/-- The schema of a user. -/
def userSchema : Value :=
  objectSchema userProperties userRequired

/-- The parameter that names a user in a path. -/
def userParameter : Value :=
  .object
    [("name", .text "id"), ("in", .text "path"), ("required", .bool true), ("type", .text "number"),
     ("description", .text "User ID"), ("example", .int 1)]

/-- A parameter of a query. -/
def queryParameter (name kind description : String) (rest : List (String × Value)) : Value :=
  .object
    ([("name", .text name), ("in", .text "query"), ("type", .text kind),
      ("description", .text description)] ++ rest)

/-- A response with a status code. -/
def response (status : Int) (description : String) (rest : List (String × Value)) : Value :=
  .object ([("statusCode", .int status), ("description", .text description)] ++ rest)

/-- An endpoint with texts and other fields. -/
def endpoint (texts : List (String × String)) (rest : List (String × Value)) : Value :=
  .object (texts.map (fun e => (e.1, .text e.2)) ++ rest)

/-- The tags of endpoints of users. -/
def userTags : String × Value := ("tags", .texts ["users"])

/-- The parameters of an endpoint of one user. -/
def userParameters : String × Value := ("parameters", .list [userParameter])

/-- The list of users, page by page. -/
def listUsers : Value :=
  endpoint
    [("id", "get-users"), ("name", "user list"), ("method", "GET"), ("path", "/users"),
     ("summary", "List users page by page"),
     ("description", "Returns users, with paging and keyword search")]
    [userTags,
     ("parameters", .list
       [queryParameter "page" "number" "Page number, starting at 1"
          [("example", .int 1), ("minimum", .int 1)],
        queryParameter "pageSize" "number" "Items per page"
          [("example", .int 10), ("minimum", .int 1), ("maximum", .int 100)],
        queryParameter "search" "string" "Search keyword" [("example", .text "john")]]),
     ("responses", .list
       [response 200 "A page of users"
          [("contentType", .text "application/json"),
           ("schema", objectSchema
             [("data", .object [("type", .text "array"), ("items", userSchema)]),
              ("total", property "number" "Total users"),
              ("page", property "number" "Current page"),
              ("pageSize", property "number" "Items per page")]
             ["data", "total"])]])]

/-- One user. -/
def showUser : Value :=
  endpoint
    [("id", "get-user"), ("name", "user detail"), ("method", "GET"), ("path", "/users/\x7bid\x7d"),
     ("summary", "Get one user")]
    [userTags, userParameters,
     ("responses", .list
       [response 200 "The user" [("schema", userSchema)], response 404 "User not found" []])]

/-- A new user. -/
def createUser : Value :=
  endpoint
    [("id", "create-user"), ("name", "user"), ("method", "POST"), ("path", "/users"),
     ("summary", "Create a user"), ("description", "Creates a new user account")]
    [userTags,
     ("requestBody", .object
       [("contentType", .text "application/json"),
        ("schema", objectSchema
          [("name", property "string" "Display name"), ("email", property "string" "Email address"),
           ("password", property "string" "Password")]
          ["name", "email", "password"]),
        ("example", .object
          [("name", .text "Jane Doe"), ("email", .text "jane@example.com"),
           ("password", .text "securePassword123")])]),
     ("responses", .list
       [response 201 "User created" [("schema", userSchema)],
        response 400 "Invalid request body" []])]

/-- A changed user. -/
def updateUser : Value :=
  endpoint
    [("id", "update-user"), ("name", "user profile"), ("method", "PUT"),
     ("path", "/users/\x7bid\x7d"), ("summary", "Replace a user's profile")]
    [userTags, userParameters,
     ("requestBody", .object
       [("contentType", .text "application/json"),
        ("schema", objectSchema
          [("name", property "string" "Display name"), ("email", property "string" "Email address"),
           ("avatar", property "string" "Avatar URL")] [])]),
     ("responses", .list [response 200 "User updated" [("schema", userSchema)]])]

/-- A user that goes. -/
def deleteUser : Value :=
  endpoint
    [("id", "delete-user"), ("name", "user account"), ("method", "DELETE"),
     ("path", "/users/\x7bid\x7d"), ("summary", "Delete a user")]
    [userTags, userParameters, ("responses", .list [response 204 "User deleted" []])]

/-- An environment. -/
def environment (name url : String) : Value :=
  .object [("name", .text name), ("baseURL", .text url)]

/-- The management of users, with every kind of endpoint. -/
def users : Value :=
  .object
    [("title", .text "User Management API"), ("version", .text "1.0.0"),
     ("description", .text "User registration, lookup and profile management"),
     ("baseURL", .text "https://api.example.com"),
     ("authentication", .object
       [("type", .text "bearer"), ("tokenPrefix", .text "Bearer"),
        ("description", .text "JWT token sent as 'Authorization: Bearer <token>'")]),
     ("endpoints", .list [listUsers, showUser, createUser, updateUser, deleteUser]),
     ("models", .object
       [("User", .object
         [("type", .text "object"), ("description", .text "A registered user"),
          ("properties", .object userProperties), ("required", .texts userRequired)])]),
     ("environments", .list
       [environment "development" "https://dev-api.example.com",
        environment "production" "https://api.example.com"])]

/-- A check of health, the smallest document. -/
def health : Value :=
  .object
    [("title", .text "Health API"), ("version", .text "1.0.0"),
     ("baseURL", .text "https://api.example.com"),
     ("endpoints", .list
       [endpoint
          [("id", "health"), ("name", "health"), ("method", "GET"), ("path", "/health"),
           ("summary", "Service health check")]
          [("responses", .list
            [response 200 "Service is healthy"
              [("schema", objectSchema
                [("status", .object
                   [("type", .text "string"), ("enum", .texts ["ok", "degraded"])]),
                 ("uptime", .object [("type", .text "number")])]
                ["status"])]])]])]

/-- The samples by their names, in order of the names. -/
def all : List (String × Value) :=
  [("health", health), ("users", users)]

/-- The names of the samples. -/
def names : List String :=
  all.map Prod.fst

/-- The sample of a name. -/
def find? (name : String) : Option Value :=
  all.lookup name

/-- The message for a name that no sample has. -/
def unknownMessage (name : String) : String :=
  "Unknown example '" ++ name ++ "'. Available: " ++ ", ".intercalate names

end ClientSynth.Sample

import ClientSynth.Client.Service

/-!
# Hooks

A query hook for each endpoint that reads with `GET`, and a mutation hook for each one that writes.
A query hook is cached under the key of its endpoint; a mutation hook makes all cached queries
stale.
-/

namespace ClientSynth

/-- The kinds of hook. -/
inductive HookKind where
  | query
  | mutation
  deriving DecidableEq

/-- A hook over a service function. -/
structure Hook where
  kind : HookKind
  name : String
  functionName : String
  description : String
  key : String
  /-- Whether the hook passes a tuple of arguments on, and not only optional parameters. -/
  spreads : Bool

namespace Endpoint

/-- Whether an endpoint gets a query hook. -/
def isQuery (e : Endpoint) : Bool :=
  e.upperMethod == "GET"

/-- Whether an endpoint gets a mutation hook. -/
def isMutation (e : Endpoint) : Bool :=
  ["POST", "PUT", "PATCH", "DELETE"].contains e.upperMethod

/-- The kind of hook that an endpoint gets, if it gets one. -/
def hookKind? (e : Endpoint) : Option HookKind :=
  if e.isQuery then some .query else if e.isMutation then some .mutation else none

/-- The name of the hook of a kind. -/
def hookNameOf (e : Endpoint) : HookKind → String
  | .query => Naming.queryHook e
  | .mutation => Naming.mutationHook e

/-- The name of the hook that an endpoint gets, if it gets one. -/
def hookName? (e : Endpoint) : Option String :=
  e.hookKind?.map e.hookNameOf

end Endpoint

namespace Service

/-- The hook of a service, if it gets one. -/
def hook? (s : Service) : Option Hook :=
  s.endpoint.hookKind?.map fun kind =>
    { kind
      name := s.endpoint.hookNameOf kind
      functionName := s.functionName
      description := TypeScript.commentLine s.endpoint.introduction
      key := Naming.queryKey s.endpoint
      spreads := !s.endpoint.pathParameters.isEmpty || s.endpoint.hasBody }

end Service

namespace Hook

/-- The lines of a query hook after its comment. -/
def queryLines (h : Hook) : List String :=
  ["export const " ++ h.name ++ " = (",
   if h.spreads then "  params: Parameters<typeof " ++ h.functionName ++ ">,"
     else "  params?: Parameters<typeof " ++ h.functionName ++ ">[0],",
   "  options?: Omit<UseQueryOptions<Awaited<ReturnType<typeof " ++ h.functionName ++
     ">>>, 'queryKey' | 'queryFn'>",
   ") => \x7b",
   "  return useQuery(\x7b",
   "    queryKey: ['" ++ h.key ++ "', params],",
   "    queryFn: () => " ++ h.functionName ++ (if h.spreads then "(...params)," else "(params),"),
   "    ...options,",
   "  \x7d);",
   "\x7d;"]

/-- The lines of a mutation hook after its comment. -/
def mutationLines (h : Hook) : List String :=
  ["export const " ++ h.name ++ " = (",
   "  options?: UseMutationOptions<",
   "    Awaited<ReturnType<typeof " ++ h.functionName ++ ">>,",
   "    Error,",
   "    Parameters<typeof " ++ h.functionName ++ ">",
   "  >",
   ") => \x7b",
   "  const queryClient = useQueryClient();",
   "",
   "  return useMutation(\x7b",
   "    mutationFn: (args: Parameters<typeof " ++ h.functionName ++ ">) =>",
   "      " ++ h.functionName ++ "(...args),",
   "    onSuccess: () => \x7b",
   "      queryClient.invalidateQueries();",
   "    \x7d,",
   "    ...options,",
   "  \x7d);",
   "\x7d;"]

/-- The lines of a hook. -/
def lines (h : Hook) : List String :=
  TypeScript.blockComment [h.description] ++
    match h.kind with
    | .query => h.queryLines
    | .mutation => h.mutationLines

/-- The functions of the query library that some hooks use. -/
def runtimeNames (hooks : List Hook) : List String :=
  (if hooks.any fun h => h.kind == .query then ["useQuery"] else []) ++
    (if hooks.any fun h => h.kind == .mutation then ["useMutation", "useQueryClient"] else [])

/-- The types of the query library that some hooks use. -/
def typeNames (hooks : List Hook) : List String :=
  (if hooks.any fun h => h.kind == .query then ["UseQueryOptions"] else []) ++
    (if hooks.any fun h => h.kind == .mutation then ["UseMutationOptions"] else [])

/-- The line that imports names from a module. -/
def importLine (keyword : String) (names : List String) (module : String) : String :=
  keyword ++ " \x7b " ++ ", ".intercalate names ++ " \x7d from '" ++ module ++ "';"

end Hook

/-- The hooks of services, in order. -/
def hooksOf (services : List Service) : List Hook :=
  services.filterMap Service.hook?

/-- The text of the file of hooks. -/
def hooksFile (services : List Service) (s : Settings) : String :=
  let hooks := hooksOf services
  Text.unlines (["/**", " * API React hooks",
      " * Data fetching and mutation hooks built on react-query.", " */", ""] ++
    (if hooks.isEmpty then []
      else
        [Hook.importLine "import" (Hook.runtimeNames hooks) s.queryLibrary,
         Hook.importLine "import type" (Hook.typeNames hooks) s.queryLibrary]) ++
    hooks.map (fun h => Hook.importLine "import" [h.functionName] "./services") ++
    hooks.flatMap fun h => "" :: h.lines)

end ClientSynth

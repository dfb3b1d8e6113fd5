import Routewright.Handler
import Routewright.Server.Statement

namespace Routewright

open Go

def Route.pattern (r : Route) : String :=
  quote r.text

namespace Param

def key (p : Param) : String :=
  quote p.name

def rawVar (p : Param) : String :=
  p.name ++ "Raw"

def valueVar (p : Param) : String :=
  p.name ++ "Val"

def lookup (p : Param) : TextExpr :=
  match p.source with
  | .auto => .pathValue p.name
  | .path => .pathValue p.name
  | .query => .queryValue p.name
  | .header => .headerValue p.name

def fallsBackToQuery (p : Param) : Bool :=
  p.source == .auto

def argument (p : Param) : Argument :=
  ⟨p.valueVar, p.required⟩

end Param

namespace Verifier

def faults : String := "errS"

def fetch (p : Param) : List Statement :=
  .declare p.rawVar p.lookup ::
    if p.fallsBackToQuery then
      [.whenEmpty p.rawVar [.assign p.rawVar (.queryValue p.name)]]
    else []

def demand (p : Param) : List Statement :=
  if p.required then
    [.whenEmpty p.rawVar
      [.append faults (.literal ("param '" ++ p.name ++ "' is required\\n"))]]
  else []

def decode (p : Param) (package : String) : List Statement :=
  [.allocate p.valueVar (p.goType package),
    .whenPresent p.rawVar
      (if p.isString then [.store p.valueVar (.var p.rawVar)]
      else
        [.decode p.rawVar p.valueVar
          [.append faults
            (.append (.append (.literal "param value ") (.var p.rawVar))
              (.literal (" cannot be decoded into type " ++ p.goType package ++ "\\n")))]])]

def stop : List Statement :=
  [.whenPresent faults [.refuse faults, .leave]]

def verify (package : String) (p : Param) : List Statement :=
  fetch p ++ demand p ++ decode p package ++ stop

def body (h : Handler) : List Statement :=
  .declare faults (.literal "") ::
    (h.params.flatMap (verify h.package) ++ [.call h.callExpr (h.params.map Param.argument)])

def registration (r : Route) (h : Handler) : String :=
  "\n".intercalate
    (["\tmux.HandleFunc(" ++ r.pattern ++
        ", func(w http.ResponseWriter, r *http.Request) \x7b"] ++
      statementLines 2 (body h) ++ ["\t\x7d)"])

end Verifier

end Routewright

import DeviceConsole.Backend.Exchange
import DeviceConsole.Decimal.Integer
import DeviceConsole.Json.Printer

/-! Requests and answers as HTTP messages. The version asked for lets a server end its answer by
closing the connection. -/
namespace DeviceConsole.Http

def lineEnd : String := "\r\n"

def requestLines (q : Request) (body : String) : List String :=
  [q.method.text ++ " " ++ q.url.path ++ (q.url.query.map fun s => "?" ++ s).getD "" ++ " HTTP/1.0",
    "Host: " ++ q.url.authorityText, "Accept: */*"] ++
  if q.body.isNone then []
  else ["Content-Type: application/json", "Content-Length: " ++ toString body.utf8ByteSize]

def requestText (q : Request) : String :=
  let body := (q.body.map Json.compact).getD ""
  lineEnd.intercalate (requestLines q body) ++ lineEnd ++ lineEnd ++ body

/-- The status after the version, and what follows the first blank line. -/
def answer? (text : String) : Option Outcome := do
  let head :: rest := text.splitOn (lineEnd ++ lineEnd) | none
  let _ :: code :: _ := head.splitOn " " | none
  let status ← Decimal.readDigits? code.toList
  some (.answer status ((lineEnd ++ lineEnd).intercalate rest))

end DeviceConsole.Http

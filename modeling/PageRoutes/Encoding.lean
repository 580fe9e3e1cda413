import PageRoutes.Url
import PageRoutes.Params
/-!
How page parameters are carried by the part of a URL after a mapper's own segments.

In the query form indexed values are trailing segments and named values are query
parameters. In the path form named values are `key/value` segment pairs and indexed
values are not written. Both forms read query parameters with a non-empty name as
named values.
-/
namespace PageRoutes

/-- The two ways of carrying parameters in a URL. -/
inductive Encoding where
  /-- Indexed values as segments, named values as query parameters. -/
  | query
  /-- Named values as `key/value` segment pairs. -/
  | path
deriving DecidableEq, Inhabited, Repr

namespace Encoding

/-- The query parameters with a non-empty name. -/
def namedQuery (u : Url) : List (String × String) :=
  u.query.filter fun q => !q.1.isEmpty

/-- Named values from `key/value` segment pairs; a last key without a value has the
empty value, and pairs with an empty key are dropped. -/
def segmentPairs : List String → List (String × String)
  | [] => []
  | [key] => if key.isEmpty then [] else [(key, "")]
  | key :: value :: rest =>
    (if key.isEmpty then [] else [(key, value)]) ++ segmentPairs rest

/-- Reads the parameters of a URL. -/
def decode : Encoding → Url → Params
  | query, u => { indexed := u.segments, named := namedQuery u }
  | path, u => { named := segmentPairs u.segments ++ namedQuery u }

/-- Writes parameters as a URL. -/
def encode : Encoding → Params → Url
  | query, p => { segments := p.indexed, query := p.named }
  | path, p => { segments := p.named.flatMap fun kv => [kv.1, kv.2] }

end Encoding

end PageRoutes

import PageRoutes.Text.CodeRanges
import PageRoutes.Text.Split
import PageRoutes.Text.Percent
import PageRoutes.Text.Lowercase
import PageRoutes.Text.Quoted
import PageRoutes.Number.Binary64
import PageRoutes.Number.Shortest
import PageRoutes.Number.Decimal
import PageRoutes.Config.Value
import PageRoutes.Config.Read
import PageRoutes.Params
import PageRoutes.Url
import PageRoutes.RequestTarget
import PageRoutes.Template.Basic
import PageRoutes.Template.Compile
import PageRoutes.Template.Match
import PageRoutes.Template.Extract
import PageRoutes.Template.Build
import PageRoutes.PageRef
import PageRoutes.Encoding
import PageRoutes.Page
import PageRoutes.Handler
import PageRoutes.Settings
import PageRoutes.Mapper.Basic
import PageRoutes.Mapper.Request
import PageRoutes.Mapper.Handler
import PageRoutes.App
import PageRoutes.Inspect
import PageRoutes.Proofs.Text
import PageRoutes.Proofs.PageRefToken
import PageRoutes.Proofs.TemplateLayout
import PageRoutes.Proofs.TemplateBuild
import PageRoutes.Proofs.TemplateMatch
import PageRoutes.Proofs.ParamsEquiv
import PageRoutes.Proofs.TemplateRoundTrip
import PageRoutes.Proofs.Percent
import PageRoutes.Proofs.UrlText
import PageRoutes.Proofs.MapperRoundTrip
import PageRoutes.Proofs.PageRefGrammar
import PageRoutes.Proofs.RequestResolution
import PageRoutes.Proofs.TemplateCompile
import PageRoutes.Proofs.EncodingText
import PageRoutes.Proofs.RequestDecoding
import PageRoutes.Proofs.GreedyMatch
import PageRoutes.Proofs.MountSpecificity
import PageRoutes.Proofs.ParamsCongruence
import PageRoutes.Proofs.AppDispatch
import PageRoutes.Proofs.GroupIndex
import PageRoutes.Proofs.ExtractLoop

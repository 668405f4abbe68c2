import ImageRequest.Config.Report
import ImageRequest.Files.Tree
import ImageRequest.Main
import ImageRequest.Proofs.Presets.Flat
import ImageRequest.Proofs.Presets.Nesting
import ImageRequest.Proofs.Presets.Check
import ImageRequest.Proofs.Numeral.Finite
import ImageRequest.Proofs.Options.Valid
import ImageRequest.Proofs.Setting.Valid
import ImageRequest.Proofs.Resolver.Request
import ImageRequest.Proofs.Resolver.Valid
import ImageRequest.Proofs.Gravity.Placement
import ImageRequest.Proofs.Resolver.Gravity
import ImageRequest.Proofs.Setting.Composed
import ImageRequest.Proofs.Presets.Expansion
import ImageRequest.Proofs.Codec.Base64Url
import ImageRequest.Proofs.Resolver.Hints
import ImageRequest.Proofs.Verifier
import ImageRequest.Proofs.Resolver.Signed
import ImageRequest.Proofs.Presets.Plain
import ImageRequest.Proofs.Options.Field
import ImageRequest.Proofs.Setting.Fields
import ImageRequest.Proofs.Presets.Reordering
import ImageRequest.Proofs.Directive
import ImageRequest.Proofs.Resolver.Modes
import ImageRequest.Proofs.Codec.Percent
import ImageRequest.Proofs.Source
import ImageRequest.Proofs.Resolver.Written
import ImageRequest.Proofs.Config.Validation
import ImageRequest.Proofs.Resolver.Address
import ImageRequest.Proofs.Resolver.Quality
import ImageRequest.Proofs.Resolver.Time
import ImageRequest.Proofs.Source.Address
import ImageRequest.Proofs.Resolver.Separator
import ImageRequest.Proofs.Resolver.Inlined
import ImageRequest.Proofs.Presets.Repeated
import ImageRequest.Proofs.Setting.Overwriting
import ImageRequest.Proofs.Setting.Parts
import ImageRequest.Proofs.Resolver.Watermark
import ImageRequest.Proofs.Setting.Ignored
import ImageRequest.Proofs.Setting.Rejected
import ImageRequest.Proofs.Codec.SpareBits
import ImageRequest.Proofs.Source.Extension
import ImageRequest.Proofs.Source.Packed
import ImageRequest.Proofs.Resolver.Extension
import ImageRequest.Proofs.Gravity.Grammar
import ImageRequest.Proofs.Setting.Padding
import ImageRequest.Proofs.Config.Template
import ImageRequest.Proofs.Presets.Definition
import ImageRequest.Proofs.Presets.Reference
import ImageRequest.Proofs.Hints
import ImageRequest.Proofs.Resolver.Overlay
import ImageRequest.Proofs.Presets.Loading
import ImageRequest.Proofs.Setting.Color
import ImageRequest.Proofs.Directive.Leading
import ImageRequest.Proofs.Resolver.Skipped
import ImageRequest.Proofs.Numeral.Integer
import ImageRequest.Proofs.Token.Integer

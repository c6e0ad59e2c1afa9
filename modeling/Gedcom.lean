import Gedcom.Main
import Gedcom.CommandLine.FileTree
import Gedcom.Graph.Arena
import Gedcom.Proofs.OutlineText
import Gedcom.Proofs.Traversal
import Gedcom.Proofs.Outermost
import Gedcom.Proofs.PassThrough
import Gedcom.Proofs.Linking
import Gedcom.Proofs.Pruning
import Gedcom.Proofs.RecordGraph
import Gedcom.Proofs.Dropping
import Gedcom.Proofs.Cleaning
import Gedcom.Proofs.PruneOrder
import Gedcom.Proofs.Arena
import Gedcom.Proofs.Leftovers
import Gedcom.Proofs.DanglingPointers
import Gedcom.Proofs.VoidPointers
import Gedcom.Proofs.Recleaning
import Gedcom.Proofs.AnyText
import Gedcom.Proofs.LiveRules
import Gedcom.Proofs.StrayLines
import Gedcom.Proofs.Results
import Gedcom.Proofs.Compilation
import Gedcom.Proofs.PatternTails
import Gedcom.Proofs.Orphans
import Gedcom.Proofs.Acceptance
import Gedcom.Proofs.Replacements
import Gedcom.Proofs.Fillings
import Gedcom.Proofs.Scanning
import Gedcom.Proofs.LiteralValues
import Gedcom.Proofs.Inclusions
import Gedcom.Proofs.RuleFileLayout
import Gedcom.Proofs.SharedDelimiters
import Gedcom.Proofs.Refiltering
import Gedcom.Proofs.GroupedSearches
import Gedcom.Proofs.Chains
import Gedcom.Proofs.Recutting
import Gedcom.Proofs.MatchedPaths
import Gedcom.Proofs.Independence
import Gedcom.Proofs.Coverage
import Gedcom.Proofs.TextGraph
import Gedcom.Proofs.TagRemoval
import Gedcom.Proofs.Restrictions
import Gedcom.Proofs.LineRewriting
import Gedcom.Proofs.Ways
import Gedcom.Proofs.Runs
import Gedcom.Proofs.Searching
import Gedcom.Proofs.Rewriting
import Gedcom.Proofs.Matching
import Gedcom.Proofs.Substitutions
import Gedcom.Proofs.ShortDates
import Gedcom.Proofs.Roominess
import Gedcom.Proofs.DateSearch
import Gedcom.Proofs.DateReduction
import Gedcom.Proofs.IndividualSearch
import Gedcom.Proofs.MinimalIndividuals
import Gedcom.Proofs.DominationReports
import Gedcom.Proofs.Partition
import Gedcom.Proofs.LineText
import Gedcom.Proofs.OutputTags
import Gedcom.Proofs.ExplicitForm
import Gedcom.Proofs.NumberedGroups
import Gedcom.Proofs.MergedRules

import LlmTts.Voice.Erasure
import LlmTts.Voice.VoiceMap
import LlmTts.Voice.Sandbox
import LlmTts.Voice.Agreement
import LlmTts.Voice.SeedProvenance
import LlmTts.Voice.Torn
import LlmTts.Cache.Release
import LlmTts.Cache.Sequential
import LlmTts.Presets.Devices
import LlmTts.Synthesis.Exclusion
import LlmTts.Synthesis.Refusal
import LlmTts.Synthesis.TempFiles
import LlmTts.Synthesis.Durations
import LlmTts.Synthesis.Effective
import LlmTts.Voice.PostgresMetadata
import LlmTts.Voice.SharedDocument
import LlmTts.Voice.Consent
import LlmTts.Voice.Provenance
import LlmTts.Synthesis.Drain
import LlmTts.Synthesis.Ranges
import LlmTts.Synthesis.LiveKnobs
import LlmTts.Synthesis.Chunking
import LlmTts.Synthesis.Cleaning
import LlmTts.Synthesis.Paragraphs
import LlmTts.Presets.Malformed
import LlmTts.Providers.Dispatch
import LlmTts.AppLogging
import LlmTts.Synthesis.Order
import LlmTts.Voice.S3Backend
import LlmTts.Voice.Library
import LlmTts.Synthesis.SpeechAdapter
import LlmTts.Startup.Lifespan
